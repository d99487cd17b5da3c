import Terraforming.Proofs.Board.Exclusive
import Terraforming.Proofs.Board.Standard

/-!
# Calls that put tiles down

Three calls put tiles on a board: `Board.place` takes any tile, and `Board.placeIfAllowed` and
`Board.placeCityIfAllowed` look at restrictions first.  What guards a location against a second tile
is that the first one shows.  A greenery that nobody owns does not: it takes its entry in the index,
and the location still shows as empty.

* `Call`, `Board.leaveAll` — the calls, and the board that a sequence of them leaves;
* `Exclusive` — no location is held twice, and every location that is held shows it;
* `exclusive_leaves_iff` — a call keeps it so exactly when it does not put down a greenery that
  nobody owns;
* `exclusive_calls_iff` — and so does a sequence of calls.
-/

namespace Terraforming

/-- A call that may put a tile down. -/
inductive Call where
  | place (l : Location) (t : Tile)
  | placeIfAllowed (p : PlayerId) (l : Location) (t : Tile) (rs : List Restriction)
  | placeCityIfAllowed (p : PlayerId) (l : Location) (kind : CityKind) (rs : List Restriction)

namespace Call

variable {b b' : Board} {call : Call}

def location : Call → Location
  | place l _ => l
  | placeIfAllowed _ l _ _ => l
  | placeCityIfAllowed _ l _ _ => l

def tile : Call → Tile
  | place _ t => t
  | placeIfAllowed _ _ t _ => t
  | placeCityIfAllowed p _ kind _ => .city kind p

/-- What a call gives: whether the tile was put down, and the board then, or why it failed. -/
def result (b : Board) : Call → Except Fault (Bool × Board)
  | place l t => (b.place l t).map fun b' => (true, b')
  | placeIfAllowed p l t rs => b.placeIfAllowed p l t rs
  | placeCityIfAllowed p l kind rs => b.placeCityIfAllowed p l kind rs

/-- The board that a call leaves.  One that fails leaves it alone. -/
def leaves (b : Board) (call : Call) : Board :=
  match call.result b with
  | .ok (_, b') => b'
  | .error _ => b

/-- A call puts down a greenery that nobody owns. -/
def PlantsUnowned (b : Board) (call : Call) : Prop :=
  (∃ b', call.result b = .ok (true, b')) ∧ call.tile.kind = .greenery ∧ call.tile.owner = none

theorem placeIfAllowed_eq_ok {p : PlayerId} {l : Location} {t : Tile} {rs : List Restriction}
    {put : Bool} (h : b.placeIfAllowed p l t rs = .ok (put, b')) :
    put = true ∧ b.place l t = .ok b' ∨ put = false ∧ b' = b := by
  unfold Board.placeIfAllowed at h
  split at h
  · cases h
    exact .inr ⟨rfl, rfl⟩
  · obtain ⟨b₁, placed, same⟩ := map_eq_ok.1 h
    cases same
    exact .inl ⟨rfl, placed⟩

/-- A call that gives a board has put its tile at its location, or has left the board alone. -/
theorem result_eq_ok {put : Bool} (h : call.result b = .ok (put, b')) :
    put = true ∧ b.place call.location call.tile = .ok b' ∨ put = false ∧ b' = b := by
  cases call with
  | place l t =>
    obtain ⟨b₁, placed, same⟩ := map_eq_ok.1 h
    cases same
    exact .inl ⟨rfl, placed⟩
  | placeIfAllowed p l t rs => exact placeIfAllowed_eq_ok h
  | placeCityIfAllowed p l kind rs => exact placeIfAllowed_eq_ok h

/-- Whatever a call gives, it has put its tile at its location, or has left the board alone. -/
theorem leaves_cases (b : Board) (call : Call) :
    (call.result b = .ok (true, call.leaves b) ∧
      b.place call.location call.tile = .ok (call.leaves b)) ∨
    (call.leaves b = b ∧ ¬∃ b', call.result b = .ok (true, b')) := by
  unfold leaves
  cases given : call.result b with
  | error f => exact .inr ⟨rfl, nofun⟩
  | ok r =>
    obtain ⟨put, b'⟩ := r
    obtain ⟨rfl, placed⟩ | ⟨rfl, rfl⟩ := result_eq_ok given
    · exact .inl ⟨rfl, placed⟩
    · exact .inr ⟨rfl, nofun⟩

end Call

namespace Board

variable {b b' : Board} {l : Location} {t : Tile} {call : Call}

/-- No location is held by two indexes, and every location that is held shows a tile. -/
structure Exclusive (b : Board) : Prop where
  once : b.occupied.Nodup
  shows : ∀ l ∈ b.occupied, (b.status l).isEmpty = false

/-- The board that a sequence of calls leaves. -/
def leaveAll (b : Board) (calls : List Call) : Board := calls.foldl Call.leaves b

/-! ## What shows -/

/-- On an accepted board every tile shows exactly when every greenery has an owner. -/
theorem Consistent.exclusive_iff (consistent : b.Consistent) : b.Exclusive ↔ b.Owned := by
  constructor
  · intro exclusive h owner held
    have there : b.greeneries.contains h = true := by simp [Table.contains, held]
    have shows := exclusive.shows _ (mem_occupied.2 (.inr ⟨h, rfl, .inr (.inl there)⟩))
    cases owner with
    | some p => rfl
    | none =>
      -- nothing is asked for at the hex but the greenery, and that has no owner to show
      obtain ⟨city, ocean⟩ := (consistent.apart h).2.1 there
      have special : b.specialTiles.get? h = none := by
        rw [← Table.contains_eq_false_iff, ← Bool.not_eq_true]
        intro special
        rw [((consistent.apart h).2.2 special).2.2] at held
        cases held
      simp [status, city, ocean, Table.getD, held, special, Tile.isEmpty, Tile.empty] at shows
  · intro owned
    refine ⟨consistent.exclusive, fun l hl => ?_⟩
    rw [← Bool.not_eq_true]
    exact fun empty => not_mem_occupied owned empty hl

/-- A greenery that is put down leaves every greenery with an owner exactly if it has one. -/
theorem owned_place_iff (owned : b.Owned) (hp : b.place l t = .ok b') : b'.Owned ↔ t.Shows := by
  constructor
  · intro after greenery
    obtain ⟨-, -, ⟨city, -⟩ | ⟨h, rfl, -, covered⟩⟩ := place_eq_ok.1 hp
    · rw [of_decide_eq_true city] at greenery
      cases greenery
    · obtain ⟨kind, -⟩ | ⟨-, rfl⟩ | ⟨kind, -⟩ := cover_eq_ok.1 covered
      · cases kind.symm.trans greenery
      · exact after h t.owner (Table.get?_insert_self _ _ _)
      · cases kind.symm.trans greenery
  · exact fun shows => owned.place shows hp

/-! ## One call -/

theorem consistent_leaves (consistent : b.Consistent) (owned : b.Owned) :
    (call.leaves b).Consistent := by
  obtain ⟨-, placed⟩ | ⟨same, -⟩ := call.leaves_cases b
  · exact consistent.place owned placed
  · exact same.symm ▸ consistent

theorem owned_leaves_iff (owned : b.Owned) : (call.leaves b).Owned ↔ ¬call.PlantsUnowned b := by
  obtain ⟨given, placed⟩ | ⟨same, refused⟩ := call.leaves_cases b
  · have shows : call.tile.Shows ↔ ¬call.PlantsUnowned b := by
      constructor
      · rintro shows ⟨-, greenery, unowned⟩
        have owner := shows greenery
        rw [unowned] at owner
        cases owner
      · intro plantsNone greenery
        cases unowned : call.tile.owner with
        | some p => rfl
        | none => exact absurd ⟨⟨_, given⟩, greenery, unowned⟩ plantsNone
    exact (owned_place_iff owned placed).trans shows
  · rw [same]
    exact iff_of_true owned fun plants => refused plants.1

/-- **A call** leaves each location with one tile that shows, exactly when it does not put down a
greenery that nobody owns. -/
theorem exclusive_leaves_iff (consistent : b.Consistent) (owned : b.Owned) :
    (call.leaves b).Exclusive ↔ ¬call.PlantsUnowned b :=
  (consistent_leaves consistent owned).exclusive_iff.trans (owned_leaves_iff owned)

/-! ## A sequence of calls -/

/-- What holds at every point of a sequence holds at the start, and at every point after the first
call. -/
theorem forall_points {P : Board → Prop} {calls : List Call} :
    (∀ before after, call :: calls = before ++ after → P (b.leaveAll before)) ↔
      P b ∧ ∀ before after, calls = before ++ after → P ((call.leaves b).leaveAll before) := by
  constructor
  · intro all
    refine ⟨all [] _ rfl, fun before after split => ?_⟩
    exact all (call :: before) after (congrArg (List.cons call) split)
  · rintro ⟨start, later⟩ before after split
    cases before with
    | nil => exact start
    | cons c before =>
      obtain ⟨rfl, rest⟩ := List.cons.inj split
      exact later before after rest

/-- And what holds of every call that is made. -/
theorem forall_calls {P : Board → Call → Prop} {calls : List Call} :
    (∀ before c after, call :: calls = before ++ c :: after → P (b.leaveAll before) c) ↔
      P b call ∧
        ∀ before c after, calls = before ++ c :: after → P ((call.leaves b).leaveAll before) c := by
  constructor
  · intro all
    refine ⟨all [] call _ rfl, fun before c after split => ?_⟩
    exact all (call :: before) c after (congrArg (List.cons call) split)
  · rintro ⟨start, later⟩ before c after split
    cases before with
    | nil =>
      obtain ⟨rfl, -⟩ := List.cons.inj split
      exact start
    | cons c' before =>
      obtain ⟨rfl, rest⟩ := List.cons.inj split
      exact later before c after rest

theorem exclusive_leaveAll_iff (consistent : b.Consistent) (owned : b.Owned) (calls : List Call) :
    (∀ before after, calls = before ++ after → (b.leaveAll before).Exclusive) ↔
      ∀ before call after, calls = before ++ call :: after →
        ¬call.PlantsUnowned (b.leaveAll before) := by
  induction calls generalizing b with
  | nil =>
    refine iff_of_true (fun before after split => ?_) fun before call after split => ?_
    · obtain ⟨rfl, -⟩ := List.append_eq_nil_iff.1 split.symm
      exact consistent.exclusive_iff.2 owned
    · cases (List.append_eq_nil_iff.1 split.symm).2
  | cons call calls ih =>
    rw [forall_points, forall_calls (P := fun b call => ¬call.PlantsUnowned b)]
    have first : (call.leaves b).Owned ↔ ¬call.PlantsUnowned b := owned_leaves_iff owned
    have consistent' : (call.leaves b).Consistent := consistent_leaves consistent owned
    constructor
    · rintro ⟨-, later⟩
      have owned' := consistent'.exclusive_iff.1 (later [] calls rfl)
      exact ⟨first.1 owned', (ih consistent' owned').1 later⟩
    · rintro ⟨plantsNone, later⟩
      exact ⟨consistent.exclusive_iff.2 owned, (ih consistent' (first.2 plantsNone)).2 later⟩

/-- **Any sequence of calls.**  From a board with nothing wrong with it, as the constructor accepts it,
and whose greeneries have owners, each location has one tile at most and shows it at every point of a
sequence of calls, whether they put their tiles down or not, exactly when none of them puts down a
greenery that nobody owns. -/
theorem exclusive_calls_iff (sound : b.conflict? = none) (owned : b.Owned) (calls : List Call) :
    (∀ before after, calls = before ++ after → (b.leaveAll before).Exclusive) ↔
      ∀ before call after, calls = before ++ call :: after →
        ¬call.PlantsUnowned (b.leaveAll before) :=
  exclusive_leaveAll_iff (conflict?_eq_none_iff.1 sound) owned calls

theorem conflict?_standard : standard.conflict? = none :=
  conflict?_eq_none_iff.2 sound_standard.consistent

/-- On the standard layout: a greenery that somebody owns, and then an ocean in its place, which is
refused. -/
theorem exclusive_calls_owned :
    standard.conflict? = none ∧ standard.Owned ∧
      (standard.leaveAll [.place (.onMars ⟨5, -1⟩) (.greenery 1),
        .placeIfAllowed 1 (.onMars ⟨5, -1⟩) .ocean [.reservedForOcean],
        .place (.onMars ⟨5, -1⟩) .ocean]).Exclusive := by
  refine ⟨conflict?_standard, owned_standard, ?_⟩
  refine (exclusive_calls_iff conflict?_standard owned_standard _).2 ?_ _ []
    (List.append_nil _).symm
  intro before call after split plants
  obtain ⟨-, greenery, unowned⟩ := plants
  have made : call ∈ before ++ call :: after := by simp
  rw [← split] at made
  simp only [List.mem_cons, List.not_mem_nil, or_false] at made
  obtain rfl | rfl | rfl := made
  · cases unowned
  · cases greenery
  · cases greenery

/-- A greenery that nobody owns does not show, and the ocean goes on top of it. -/
theorem unowned_overbuilt :
    ({ spaces := standardSpaces } : Contents).toBoard = .ok standard ∧ standard.Owned ∧
      ¬(standard.leaveAll [.place (.onMars ⟨5, -1⟩) { kind := .greenery }]).Exclusive ∧
      ¬(standard.leaveAll [.place (.onMars ⟨5, -1⟩) { kind := .greenery },
        .place (.onMars ⟨5, -1⟩) .ocean]).occupied.Nodup := by
  refine ⟨Contents.toBoard_eq_ok.2 ⟨sound_standard.consistent, rfl⟩, owned_standard,
    fun exclusive => ?_, by decide +kernel⟩
  have held : Location.onMars ⟨5, -1⟩ ∈
      (standard.leaveAll [.place (.onMars ⟨5, -1⟩) { kind := .greenery }]).occupied := by
    decide +kernel
  have empty : ((standard.leaveAll [.place (.onMars ⟨5, -1⟩) { kind := .greenery }]).status
      (.onMars ⟨5, -1⟩)).isEmpty = true := by
    decide +kernel
  rw [exclusive.shows _ held] at empty
  cases empty

end Board

end Terraforming
