import Mathlib.Data.Finset.Basic

/-!
# Handing on at most once

A receiver is offered things, some of them more than once because the sender cannot know
what has come through. A thing that must not be handed on twice has a key. The receiver
remembers the keys of the things that it has got whole, and hands on nothing under such a
key until the sender releases it.

`Once.delivered_filter` is what this is good for: once a key is remembered, whatever is
offered under it may as well not have been offered, up to the release of the key. Things
may come in pieces, and it does not matter when they are taken to pieces
(`Once.delivered_flatMap_split`).
-/

namespace Once

/-- What a receiver is told. -/
inductive Signal (κ α : Type*) where
  /-- Something is offered, under a key or without one. -/
  | offer (key : Option κ) (a : α)
  /-- What has been offered under this key was all of it. -/
  | settle (key : κ)
  /-- The sender will not offer anything under this key again. -/
  | release (key : κ)
  /-- The sender has forgotten everything. -/
  | reset
  /-- Something else. -/
  | other

variable {κ α : Type*} [DecidableEq κ]

/-- The keys that the receiver remembers. -/
def next (S : Finset κ) : Signal κ α → Finset κ
  | .settle key => insert key S
  | .release key => S.erase key
  | .reset => ∅
  | _ => S

/-- What is handed on. -/
def deliver (S : Finset κ) : Signal κ α → List α
  | .offer (some key) a => if key ∈ S then [] else [a]
  | .offer none a => [a]
  | _ => []

/-- The keys that are remembered in the end. -/
def pending : Finset κ → List (Signal κ α) → Finset κ
  | S, [] => S
  | S, s :: ss => pending (next S s) ss

/-- All that is handed on. -/
def delivered : Finset κ → List (Signal κ α) → List α
  | _, [] => []
  | S, s :: ss => deliver S s ++ delivered (next S s) ss

@[simp] theorem pending_nil (S : Finset κ) : pending S ([] : List (Signal κ α)) = S := rfl

@[simp] theorem delivered_nil (S : Finset κ) : delivered S ([] : List (Signal κ α)) = [] := rfl

theorem pending_append (S : Finset κ) (ss ts : List (Signal κ α)) :
    pending S (ss ++ ts) = pending (pending S ss) ts := by
  induction ss generalizing S with
  | nil => rfl
  | cons s ss ih => exact ih _

theorem delivered_append (S : Finset κ) (ss ts : List (Signal κ α)) :
    delivered S (ss ++ ts) = delivered S ss ++ delivered (pending S ss) ts := by
  induction ss generalizing S with
  | nil => rfl
  | cons s ss ih =>
    rw [List.cons_append, delivered, delivered, ih, List.append_assoc]
    rfl

/-- The signal makes the receiver forget the key. -/
def Frees (key : κ) : Signal κ α → Prop
  | .release k => k = key
  | .reset => True
  | _ => False

/-- The signal is about something under the key, and does not make the receiver forget it. -/
def concerns (key : κ) : Signal κ α → Bool
  | .offer (some k) _ => k = key
  | .settle k => k = key
  | _ => false

theorem mem_next {S : Finset κ} {key : κ} (hkey : key ∈ S) {s : Signal κ α} (hs : ¬Frees key s) :
    key ∈ next S s := by
  cases s with
  | settle k => exact Finset.mem_insert_of_mem hkey
  | release k => exact Finset.mem_erase.mpr ⟨fun h => hs h.symm, hkey⟩
  | reset => exact absurd trivial hs
  | _ => exact hkey

/-- A signal about a key that is remembered does nothing. -/
theorem idle_of_concerns {S : Finset κ} {key : κ} (hkey : key ∈ S) {s : Signal κ α}
    (hs : concerns key s = true) : deliver S s = [] ∧ next S s = S := by
  cases s with
  | offer k a =>
    cases k with
    | none => cases hs
    | some k =>
      obtain rfl : k = key := of_decide_eq_true hs
      exact ⟨if_pos hkey, rfl⟩
  | settle k =>
    obtain rfl : k = key := of_decide_eq_true hs
    exact ⟨rfl, Finset.insert_eq_of_mem hkey⟩
  | _ => cases hs

/-- **What is offered under a key that is remembered is not handed on**, and does not change
what else is. -/
theorem delivered_filter {S : Finset κ} {key : κ} (hkey : key ∈ S) {ss : List (Signal κ α)}
    (hss : ∀ s ∈ ss, ¬Frees key s) :
    delivered S ss = delivered S (ss.filter fun s => !concerns key s) := by
  induction ss generalizing S with
  | nil => rfl
  | cons s ss ih =>
    obtain ⟨hs, hss⟩ := List.forall_mem_cons.mp hss
    have hrest := ih (mem_next hkey hs) hss
    by_cases hconcerns : concerns key s = true
    · obtain ⟨hdeliver, hnext⟩ := idle_of_concerns hkey hconcerns
      rw [hnext] at hrest
      rw [List.filter_cons_of_neg (by simp [hconcerns]), delivered, hdeliver, hnext,
        List.nil_append]
      exact hrest
    · rw [List.filter_cons_of_pos (by simp [hconcerns]), delivered, delivered, hrest]

/-! ### Pieces -/

variable {β : Type*} {f : α → List β}

/-- A signal, with what is offered taken to pieces. -/
def Signal.split (f : α → List β) : Signal κ α → List (Signal κ β)
  | .offer key a => (f a).map (.offer key)
  | .settle key => [.settle key]
  | .release key => [.release key]
  | .reset => [.reset]
  | .other => [.other]

theorem pending_offers (S : Finset κ) (key : Option κ) (as : List α) :
    pending S (as.map (.offer key)) = S := by
  induction as with
  | nil => rfl
  | cons a as ih => exact ih

theorem delivered_offers (S : Finset κ) (key : Option κ) (as : List α) :
    delivered S (as.map (.offer key)) = if key.any (· ∈ S) then [] else as := by
  induction as with
  | nil => exact (ite_self _).symm
  | cons a as ih =>
    rw [List.map_cons, delivered, show next S (Signal.offer key a) = S from rfl, ih]
    cases key with
    | none => rfl
    | some key =>
      rw [deliver]
      by_cases hkey : key ∈ S <;> simp [hkey]

theorem pending_split (S : Finset κ) (s : Signal κ α) : pending S (s.split f) = next S s := by
  cases s with
  | offer key a => exact pending_offers S key (f a)
  | _ => rfl

/-- **Taking to pieces what is offered** takes to pieces what is handed on. -/
theorem delivered_flatMap_split (S : Finset κ) (ss : List (Signal κ α)) :
    delivered S (ss.flatMap (Signal.split f)) = (delivered S ss).flatMap f := by
  induction ss generalizing S with
  | nil => rfl
  | cons s ss ih =>
    rw [List.flatMap_cons, delivered_append, pending_split, ih, delivered, List.flatMap_append]
    congr 1
    cases s with
    | offer key a =>
      rw [Signal.split, delivered_offers]
      cases key with
      | none => exact (List.flatMap_singleton f a).symm
      | some key =>
        rw [deliver]
        by_cases hkey : key ∈ S <;> simp [hkey]
    | _ => rfl

end Once
