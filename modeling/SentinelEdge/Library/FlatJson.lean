import Mathlib.Data.List.Basic

/-!
# Flat JSON objects

The JSON text that a small telemetry producer emits: one object, its members on one
level, every value a numeral, no blanks. `FlatJson.print` writes it and
`FlatJson.parse` reads it, and the one inverts the other
(`FlatJson.parse_print`) as long as no key and no numeral contains one of the
characters that hold the object together (`FlatJson.Plain`).
-/

namespace FlatJson

/-- A key with the numeral under it. -/
abbrev Member := List Char × List Char

/-- The characters that hold an object together. -/
def structural : List Char := ['"', ',', ':']

/-- A text without structural characters. -/
def Plain (text : List Char) : Prop := ∀ c ∈ structural, c ∉ text

/-- The check that a text is plain. -/
theorem plain_of_all {text : List Char}
    (h : structural.all (fun c => !text.contains c) = true) : Plain text := by
  intro c hc
  simpa using List.all_eq_true.mp h c hc

/-! ### Writing -/

/-- One member. -/
def printMember (m : Member) : List Char := '"' :: m.1 ++ '"' :: ':' :: m.2

/-- The object with these members, in this order. -/
def print (ms : List Member) : List Char :=
  '{' :: List.intercalate [','] (ms.map printMember) ++ ['}']

theorem not_mem_intercalate {c sep : Char} {ls : List (List Char)} (hsep : c ≠ sep)
    (h : ∀ l ∈ ls, c ∉ l) : c ∉ [sep].intercalate ls := by
  induction ls with
  | nil => exact List.not_mem_nil
  | cons l ls ih =>
    have hl : c ∉ l := h l List.mem_cons_self
    by_cases hls : ls = []
    · rw [hls, List.intercalate_singleton]
      exact hl
    · have hrest := ih fun l' hl' => h l' (List.mem_cons_of_mem _ hl')
      rw [List.intercalate_cons_of_ne_nil hls]
      simp [hl, hsep, hrest]

/-- A character that is not part of the notation, nor of any key or numeral, does not
occur in the text. -/
theorem not_mem_print {c : Char} {ms : List Member} (hc : c ∉ ['{', '}', '"', ',', ':'])
    (h : ∀ m ∈ ms, c ∉ m.1 ∧ c ∉ m.2) : c ∉ print ms := by
  simp only [List.mem_cons, List.not_mem_nil, or_false, not_or] at hc
  obtain ⟨hopen, hclose, hquote, hcomma, hcolon⟩ := hc
  have hmembers : c ∉ [','].intercalate (ms.map printMember) := by
    refine not_mem_intercalate hcomma fun l hl => ?_
    obtain ⟨m, hm, rfl⟩ := List.mem_map.mp hl
    simp [printMember, hquote, hcolon, h m hm]
  simp [print, hopen, hclose, hmembers]

/-! ### Reading -/

/-- A key, out of its quotes. -/
def parseKey (text : List Char) : Option (List Char) :=
  match text.splitOn '"' with
  | [[], key, []] => some key
  | _ => none

/-- One member. -/
def parseMember (text : List Char) : Option Member :=
  match text.splitOn ':' with
  | [key, value] => (parseKey key).map fun k => (k, value)
  | _ => none

/-- The members between the braces. -/
def parseBody (body : List Char) : Option (List Member) :=
  if body = [] then some [] else (body.splitOn ',').mapM parseMember

/-- The members of an object. -/
def parse (text : List Char) : Option (List Member) :=
  if text.head? = some '{' ∧ text.getLast? = some '}' then parseBody text.tail.dropLast else none

/-! ### Reading back what was written -/

variable {m : Member} {ms : List Member}

theorem parseKey_quoted {key : List Char} (h : Plain key) :
    parseKey ('"' :: key ++ ['"']) = some key := by
  have hquote : '"' ∉ key := h '"' (by decide)
  have hsplit : ('"' :: key ++ ['"']).splitOn '"' = [[], key, []] := by
    have : '"' :: key ++ ['"'] = ['"'].intercalate [[], key, []] := by
      simp [List.intercalate, List.intersperse]
    rw [this, List.splitOn_intercalate]
    · intro l hl
      simp only [List.mem_cons, List.not_mem_nil, or_false] at hl
      rcases hl with rfl | rfl | rfl
      · exact List.not_mem_nil
      · exact hquote
      · exact List.not_mem_nil
    · simp
  rw [parseKey, hsplit]

theorem parseMember_printMember (hkey : Plain m.1) (hvalue : Plain m.2) :
    parseMember (printMember m) = some m := by
  have hsplit : (printMember m).splitOn ':' = ['"' :: m.1 ++ ['"'], m.2] := by
    have : printMember m = [':'].intercalate ['"' :: m.1 ++ ['"'], m.2] := by
      simp [printMember, List.intercalate, List.intersperse]
    rw [this, List.splitOn_intercalate]
    · intro l hl
      simp only [List.mem_cons, List.not_mem_nil, or_false] at hl
      rcases hl with rfl | rfl
      · simpa using hkey ':' (by decide)
      · exact hvalue ':' (by decide)
    · simp
  rw [parseMember, hsplit]
  show (parseKey ('"' :: m.1 ++ ['"'])).map _ = _
  rw [parseKey_quoted hkey]
  rfl

/-- A member contains no comma. -/
theorem comma_not_mem_printMember (hkey : Plain m.1) (hvalue : Plain m.2) :
    ',' ∉ printMember m := by
  have hk : ',' ∉ m.1 := hkey ',' (by decide)
  have hv : ',' ∉ m.2 := hvalue ',' (by decide)
  simp [printMember, hk, hv]

theorem intercalate_ne_nil (h : ms ≠ []) : [','].intercalate (ms.map printMember) ≠ [] := by
  obtain ⟨m, ms', rfl⟩ := List.exists_cons_of_ne_nil h
  cases ms' <;> simp [List.intercalate, printMember]

theorem mapM_parseMember (h : ∀ m ∈ ms, Plain m.1 ∧ Plain m.2) :
    (ms.map printMember).mapM parseMember = some ms := by
  induction ms with
  | nil => rfl
  | cons m ms ih =>
    have hm := h m List.mem_cons_self
    rw [List.map_cons, List.mapM_cons, parseMember_printMember hm.1 hm.2,
      ih fun m' hm' => h m' (List.mem_cons_of_mem _ hm')]
    rfl

theorem parseBody_intercalate (h : ∀ m ∈ ms, Plain m.1 ∧ Plain m.2) :
    parseBody ([','].intercalate (ms.map printMember)) = some ms := by
  by_cases hms : ms = []
  · -- splitting an empty text would give one empty member
    subst hms
    rfl
  · have hsplit : ([','].intercalate (ms.map printMember)).splitOn ',' = ms.map printMember := by
      refine List.splitOn_intercalate ',' ?_ (by simpa using hms)
      intro l hl
      obtain ⟨m, hm, rfl⟩ := List.mem_map.mp hl
      exact comma_not_mem_printMember (h m hm).1 (h m hm).2
    rw [parseBody, if_neg (intercalate_ne_nil hms), hsplit, mapM_parseMember h]

/-- **What is written is read back**: the members, in their order. -/
theorem parse_print (h : ∀ m ∈ ms, Plain m.1 ∧ Plain m.2) : parse (print ms) = some ms := by
  have hbraces : (print ms).head? = some '{' ∧ (print ms).getLast? = some '}' := by
    constructor
    · rfl
    · exact List.getLast?_concat
  have hbody : (print ms).tail.dropLast = [','].intercalate (ms.map printMember) := by
    simp [print]
  rw [parse, if_pos hbraces, hbody, parseBody_intercalate h]

end FlatJson
