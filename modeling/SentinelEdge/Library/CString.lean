import Mathlib.Data.List.Basic

/-!
# Strings in C buffers

A C function that is handed a `char *` sees no length. It reads up to the first
`NUL`, wherever that is. A buffer of which it is known how long it is holds a string
only if there is a `NUL` in it; `CString.read` is that string, or nothing when a
reader would run past the end.

`CString.write` is a writer that knows the size of the buffer, writes what fits, and
ends the text with a `NUL` only if there is room for it. So what it leaves is
readable exactly when the text was shorter than the buffer
(`CString.read_write`, `CString.read_write_of_le`).

In memory a character is a byte, if it is one at all (`CString.Narrow`). A reader that works
on the bytes finds the bytes of the string that is in the buffer, whatever lies behind it
(`CString.takeWhile_bytes`).
-/

namespace CString

/-- The character that ends a string. -/
def NUL : Char := Char.ofNat 0

/-- The string a buffer holds, if it is terminated within the buffer. -/
def read (buf : List Char) : Option (List Char) :=
  if NUL ∈ buf then some (buf.takeWhile (· ≠ NUL)) else none

/-- Writes what fits of a text, with a `NUL` if there is room for it, and leaves the
rest of the buffer as it is. -/
def write (text buf : List Char) : List Char :=
  if text.length < buf.length then text ++ NUL :: buf.drop (text.length + 1)
  else text.take buf.length

/-- The number of characters written, the `NUL` not counted. -/
def written (text buf : List Char) : ℕ := min text.length buf.length

variable {text buf : List Char}

/-- **A text that is shorter than the buffer is read back whole.** -/
theorem read_write (htext : NUL ∉ text) (hlen : text.length < buf.length) :
    read (write text buf) = some text := by
  have hplain : ∀ c ∈ text, decide (c ≠ NUL) = true := fun c hc =>
    decide_eq_true fun h => htext (h ▸ hc)
  rw [write, if_pos hlen, read, if_pos (by simp), List.takeWhile_append_of_pos hplain]
  simp

/-- **A text that is not shorter than the buffer is not terminated.** -/
theorem read_write_of_le (htext : NUL ∉ text) (hlen : buf.length ≤ text.length) :
    read (write text buf) = none := by
  -- the buffer is full of text
  rw [write, if_neg (Nat.not_lt.mpr hlen), read, if_neg]
  exact fun h => htext (List.mem_of_mem_take h)

/-! ### Bytes -/

/-- The bytes of a text in memory. -/
def bytes (text : List Char) : List UInt8 := text.map fun c => UInt8.ofNat c.toNat

/-- The text that some bytes are. -/
def chars (bs : List UInt8) : List Char := bs.map fun b => Char.ofNat b.toNat

/-- Every character fits a byte. -/
def Narrow (text : List Char) : Prop := ∀ c ∈ text, c.toNat < 256

@[simp] theorem length_bytes (text : List Char) : (bytes text).length = text.length :=
  List.length_map _

/-- `CString.Narrow` by computation. -/
theorem narrow_of_all (h : text.all (fun c => decide (c.toNat < 256)) = true) : Narrow text :=
  fun c hc => of_decide_eq_true (List.all_eq_true.mp h c hc)

/-- **A narrow text is its bytes.** -/
theorem chars_bytes (h : Narrow text) : chars (bytes text) = text := by
  rw [chars, bytes, List.map_map]
  refine (List.map_congr_left fun c hc => ?_).trans (List.map_id text)
  rw [Function.comp_apply, UInt8.toNat_ofNat', Nat.mod_eq_of_lt (h c hc), Char.ofNat_toNat, id]

/-- No other narrow character is written as the `NUL`. -/
theorem zero_notMem_bytes (h : Narrow text) (htext : NUL ∉ text) : 0 ∉ bytes text := by
  intro h0
  obtain ⟨c, hc, hzero⟩ := List.mem_map.mp h0
  have hnat : c.toNat = 0 := by
    have htoNat := congrArg UInt8.toNat hzero
    rwa [UInt8.toNat_ofNat', Nat.mod_eq_of_lt (h c hc)] at htoNat
  refine htext ?_
  rwa [NUL, ← hnat, Char.ofNat_toNat]

/-- A string is what comes before the first `NUL`. -/
theorem exists_of_read (h : read buf = some text) :
    NUL ∉ text ∧ ∃ behind, buf = text ++ NUL :: behind := by
  obtain ⟨hmem, h⟩ := Option.ite_none_right_eq_some.mp h
  obtain ⟨front, behind, rfl, hfront⟩ := List.eq_append_cons_of_mem hmem
  have hplain : ∀ c ∈ front, decide (c ≠ NUL) = true := fun c hc =>
    decide_eq_true fun h => hfront (h ▸ hc)
  rw [List.takeWhile_append_of_pos hplain, List.takeWhile_cons_of_neg (by simp),
    List.append_nil] at h
  obtain rfl := Option.some.inj h
  exact ⟨hfront, behind, rfl⟩

/-- **The bytes before the first zero** are those of the string in the buffer, whatever the
memory behind the buffer holds. -/
theorem takeWhile_bytes (h : read buf = some text) (htext : Narrow text) (beyond : List UInt8) :
    (bytes buf ++ beyond).takeWhile (· ≠ 0) = bytes text := by
  obtain ⟨hnul, behind, rfl⟩ := exists_of_read h
  have hplain : ∀ b ∈ bytes text, decide (b ≠ 0) = true := fun b hb =>
    decide_eq_true fun h0 => zero_notMem_bytes htext hnul (h0 ▸ hb)
  have hsplit : bytes (text ++ NUL :: behind) ++ beyond =
      bytes text ++ 0 :: (bytes behind ++ beyond) := by
    rw [bytes, List.map_append, List.map_cons, List.append_assoc]
    rfl
  rw [hsplit, List.takeWhile_append_of_pos hplain, List.takeWhile_cons_of_neg (by simp),
    List.append_nil]

end CString
