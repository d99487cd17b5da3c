import Terraforming.Proofs.Service.Changes
import Terraforming.Proofs.Wire.Tokens

/-!
# Ids

Where the ids of games come from is left open.  All that matters of a supply is that it gives no id
twice, and none that is taken: then no game takes the place of another.

* `Service.Fresh` — the ids to come are new ones;
* `Service.Fresh.after`, `Service.Fresh.answer` — they are after every change and every request;
* `Service.Fresh.kept` — so a game stays as it is until a change names it;
* `Service.Fresh.empty`, `Service.idOf_injective` — ids that are counted up are a supply of new ones.
-/

namespace Terraforming

open Service

/-- The id that a change names; the id of a new game is not named. -/
def Change.named? : Change → Option String
  | create _ => none
  | finish id | operate id _ | advance id | move id _ => some id

namespace Service

variable {s s' : Service} {c : Change} {id : String} {h : Hosted}

/-- The ids to come are different ones, and no game has one of them. -/
structure Fresh (s : Service) : Prop where
  apart : Function.Injective s.supply
  free : ∀ n, s.created ≤ n → s.games.get? (s.supply n) = none

namespace Fresh

/-- Without games, every id is free. -/
theorem empty {supply : Nat → String} (apart : Function.Injective supply) (usual : Catalog) :
    ({ supply, usual } : Service).Fresh :=
  ⟨apart, fun _ _ => rfl⟩

theorem hosted_ne (fresh : s.Fresh) (hosted : s.games.get? id = some h) {n : Nat}
    (ahead : s.created ≤ n) : s.supply n ≠ id := by
  rintro rfl
  cases (fresh.free n ahead).symm.trans hosted

theorem withGame (fresh : s.Fresh) (hh : s.hosted id = .ok h) (g : Game) :
    (s.withGame id h g).Fresh := by
  refine ⟨fresh.apart, fun n ahead => ?_⟩
  have other := fresh.hosted_ne (hosted_eq_ok.1 hh) ahead
  exact (get?_withGame_of_ne other h g).trans (fresh.free n ahead)

/-- Whatever a service comes to by a change, the ids to come are new ones. -/
theorem leads (fresh : s.Fresh) (leads : c.Leads s s') : s'.Fresh := by
  cases leads with
  | same => exact fresh
  | created =>
    refine ⟨fresh.apart, fun n ahead => ?_⟩
    have ahead : s.created + 1 ≤ n := ahead
    have other : s.supply n ≠ s.supply s.created := fun same => by
      have := fresh.apart same
      omega
    exact (Table.get?_insert_of_ne s.games _ other).trans (fresh.free n (by omega))
  | finished =>
    refine ⟨fresh.apart, fun n ahead => ?_⟩
    refine (Table.get?_filterKeys s.games _ (s.supply n)).trans ?_
    split
    · exact fresh.free n ahead
    · rfl
  | operated hh | ended hh | stopped hh | moved hh => exact fresh.withGame hh _

theorem after (fresh : s.Fresh) (c : Change) : (c.after s).Fresh := fresh.leads (c.leads s)

theorem answer (fresh : s.Fresh) (r : Request) (through : Channel) :
    (s.answer r through).2.Fresh := by
  rcases s.asks_answer r through with same | ⟨c, asked⟩
  · rwa [same]
  · rw [asked]
    exact fresh.after c

/-- A game stays as it is under a change that does not name it. -/
theorem get?_after (fresh : s.Fresh) (hosted : s.games.get? id = some h)
    (unnamed : c.named? ≠ some id) : (c.after s).games.get? id = some h := by
  refine (c.get?_after s fun same => ?_).trans hosted
  cases c with
  | create r => exact fresh.hosted_ne hosted (Nat.le_refl _) same.symm
  | finish id' | operate id' o | advance id' | move id' r => exact unnamed (congrArg some same.symm)

end Fresh

/-- The service after some changes, one after another. -/
def afterAll (s : Service) (cs : List Change) : Service := cs.foldl (fun s c => c.after s) s

/-- **A game is kept until it is named.**  Whatever else a service is asked to change, and whatever
games it creates, a game of it stays as it is as long as no change names it. -/
theorem Fresh.kept {cs : List Change} (fresh : s.Fresh) (hosted : s.games.get? id = some h)
    (unnamed : ∀ c ∈ cs, c.named? ≠ some id) : (s.afterAll cs).games.get? id = some h := by
  induction cs generalizing s with
  | nil => exact hosted
  | cons c cs ih =>
    obtain ⟨first, others⟩ := List.forall_mem_cons.1 unnamed
    exact ih (fresh.after c) (fresh.get?_after hosted first) others

/-! ## Counting up -/

theorem digitsValue_zeros (k : Nat) (ds : List Char) :
    Text.digitsValue (List.replicate k '0' ++ ds) = Text.digitsValue ds := by
  induction k with
  | zero => rfl
  | succ k ih => exact ih

theorem toList_idOf (n : Nat) :
    ∃ k, (idOf n).toList = "game".toList ++ (List.replicate k '0' ++ Nat.toDigits 10 (n + 1)) := by
  have digits : (toString (n + 1)).toList = Nat.toDigits 10 (n + 1) := Nat.toList_repr
  refine ⟨8 - (toString (n + 1)).length, ?_⟩
  simp only [idOf, String.toList_append, String.toList_ofList, digits, List.append_assoc]

/-- The digits of an id that is counted up spell how many games were created by then. -/
theorem digitsValue_idOf (n : Nat) : Text.digitsValue ((idOf n).toList.drop 4) = n + 1 := by
  obtain ⟨k, spelled⟩ := toList_idOf n
  have behind : (idOf n).toList.drop 4 = List.replicate k '0' ++ Nat.toDigits 10 (n + 1) := by
    rw [spelled]
    rfl
  rw [behind, digitsValue_zeros, Json.digitsValue_toDigits]

/-- Ids that are counted up are all different. -/
theorem idOf_injective : Function.Injective idOf := by
  intro m n same
  have counted := digitsValue_idOf m
  rw [same, digitsValue_idOf] at counted
  omega

end Service

end Terraforming
