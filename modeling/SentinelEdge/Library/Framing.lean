import Mathlib.Data.List.Basic

/-!
# Messages on a stream

A stream has no boundaries of its own: a message that is sent over it must show where it
ends. `Framing` is a code whose words do. Three things are asked of it: a word is read
back, whatever follows; what was read stays as it is when more arrives; and something is
read. From these:

* a part of a word that is not the whole word is not read as anything
  (`Framing.dec_of_append`);
* **a receiver that has been sent some words and a part of another one reads exactly
  these words**, and keeps the part for later (`Framing.receive_append`).
-/

/-- **A code whose words show where they end**, over the letters `β`. -/
structure Framing (α β : Type*) where
  /-- The word of a message. -/
  enc : α → List β
  /-- The message whose word comes first, and what follows it. -/
  dec : List β → Option (α × List β)
  dec_enc : ∀ a bs, dec (enc a ++ bs) = some (a, bs)
  dec_append : ∀ {bs r}, dec bs = some r → ∀ cs, dec (bs ++ cs) = some (r.1, r.2 ++ cs)
  length_of_dec : ∀ {bs r}, dec bs = some r → r.2.length < bs.length

namespace Framing

variable {α β : Type*} (F : Framing α β)

/-- What a receiver gets out of the letters it has: the messages, and the letters that
do not make up a message yet. -/
def receive (bs : List β) : List α × List β :=
  match _h : F.dec bs with
  | none => ([], bs)
  | some r => (r.1 :: (receive r.2).1, (receive r.2).2)
termination_by bs.length
decreasing_by exact F.length_of_dec _h

variable {F} {bs cs : List β} {a : α}

theorem receive_of_none (h : F.dec bs = none) : F.receive bs = ([], bs) := by
  rw [receive]
  split
  · rfl
  · rename_i r hr
    rw [h] at hr
    cases hr

theorem receive_of_some {r : α × List β} (h : F.dec bs = some r) :
    F.receive bs = (r.1 :: (F.receive r.2).1, (F.receive r.2).2) := by
  rw [receive]
  split
  · rename_i hn
    rw [h] at hn
    cases hn
  · rename_i r' hr'
    obtain rfl : r = r' := Option.some.inj (h.symm.trans hr')
    rfl

/-- **A part of a word is not read as anything.** -/
theorem dec_of_append (h : F.enc a = bs ++ cs) (hcs : cs ≠ []) : F.dec bs = none := by
  cases hd : F.dec bs with
  | none => rfl
  | some r =>
    -- what is read of a part is read of the whole, which would leave `cs` behind
    have hwhole := F.dec_enc a []
    rw [List.append_nil, h, F.dec_append hd cs] at hwhole
    obtain ⟨-, hrest⟩ := Prod.mk.inj (Option.some.inj hwhole)
    exact absurd (List.append_eq_nil_iff.mp hrest).2 hcs

/-- The receiver reads the words one by one. -/
theorem receive_enc_append (a : α) (bs : List β) :
    F.receive (F.enc a ++ bs) = (a :: (F.receive bs).1, (F.receive bs).2) :=
  receive_of_some (F.dec_enc a bs)

theorem receive_flatMap_append (as : List α) (bs : List β) :
    F.receive (as.flatMap F.enc ++ bs) = (as ++ (F.receive bs).1, (F.receive bs).2) := by
  induction as with
  | nil => rfl
  | cons a as ih =>
    rw [List.flatMap_cons, List.append_assoc, receive_enc_append, ih]
    rfl

/-- **What a receiver makes of some words and a part of another one**: these words, and
the part. -/
theorem receive_append (as : List α) (h : F.enc a = bs ++ cs) (hcs : cs ≠ []) :
    F.receive (as.flatMap F.enc ++ bs) = (as, bs) := by
  rw [receive_flatMap_append, receive_of_none (dec_of_append h hcs), List.append_nil]

/-- Some words, and nothing else. -/
theorem receive_flatMap (as : List α) (hnil : F.dec [] = none) :
    F.receive (as.flatMap F.enc) = (as, []) := by
  have h := receive_flatMap_append (F := F) as []
  rwa [List.append_nil, receive_of_none hnil, List.append_nil] at h

end Framing
