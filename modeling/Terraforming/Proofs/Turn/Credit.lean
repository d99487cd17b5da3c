import Mathlib.Tactic.Ring
import Terraforming.Proofs.Game.Floors
import Terraforming.Proofs.Game.Marks
import Terraforming.Proofs.Turn.Accounts
import Terraforming.Proofs.Turn.Replay

/-!
# Terraforming is credited

Whoever raises the temperature or the oxygen, or lays an ocean, is credited with one step of terraform
rating, at once.  A greenery brings a step of oxygen as long as there is one left.  Apart from this the
rating moves only where an impact says so.

The operations of a turn are read as a sequence of stretches (`Terraforms`), each of which is
one such step with its credit, and this reading is kept by every impact, bonus and reaction
(`Credited`).  What follows every single operation is read off it (`Credited.credits`), and so is the
account of the ratings (`Credited.ratings`).

* `Game.terraforming_credited` — every turn, and impacts that are taken up again.
-/

namespace Terraforming

/-! ## Terraforming -/

/-- The types of the operations that terraform, or raise the rating. -/
def OperationType.terraforms : OperationType → Bool
  | raiseTemperature | raiseOxygen | placeOcean | placeGreenery | raiseTerraformRating => true
  | _ => false

/-- One step of a global parameter, which is credited with one step of rating. -/
def Operation.isStep (o : Operation) : Bool :=
  o.type = .raiseTemperature || o.type = .raiseOxygen || o.type = .placeOcean

theorem Operation.isStep_of_quiet {o : Operation} (quiet : o.type.terraforms = false) :
    o.isStep = false ∧ o.type ≠ .placeGreenery ∧ o.type ≠ .raiseTerraformRating := by
  unfold isStep
  revert quiet
  cases o.type <;> decide

/-- An impact that raises the rating of `p` demands this operation, and it has come from where impacts
come from. -/
def Game.Grants (p : PlayerId) (Origin : Impact → Prop) (g : Game) (o : Operation) : Prop :=
  ∃ i source, Origin i ∧ (i.type = .raiseTerraformRating ∨ i.type = .gainTerraformRatingPerOwnTag) ∧
    i.demand g p source = .ok (.perform [o])

/-- What a turn of `p` does at one go: something else; a step that is credited; a greenery, with a step of
oxygen unless there is none left; or a rating that is granted. -/
inductive Game.Terraforms (p : PlayerId) (Origin : Impact → Prop) (g : Game) :
    List Operation → Prop where
  | quiet {o : Operation} : o.type.terraforms = false → Terraforms p Origin g [o]
  | step {o : Operation} : o.isStep = true → Terraforms p Origin g [o, .raiseTerraformRating p]
  | greenery {l : Location} : g.board.oxygenMaxed = true →
      Terraforms p Origin g [.placeGreenery p l]
  | greeneryStep {l : Location} : g.board.oxygenMaxed = false →
      Terraforms p Origin g [.placeGreenery p l, .raiseOxygen, .raiseTerraformRating p]
  | granted {n : Int} : g.Grants p Origin (.raiseTerraformRating p n) →
      Terraforms p Origin g [.raiseTerraformRating p n]

/-- Operations from `g` on that are read like this from beginning to end. -/
inductive Game.Credited (p : PlayerId) (Origin : Impact → Prop) : Game → List Operation → Prop where
  | nil (g : Game) : Credited p Origin g []
  | cons {g g₁ : Game} {os rest : List Operation} : g.Terraforms p Origin os →
      g.executeAll os = .accepted g₁ → Credited p Origin g₁ rest → Credited p Origin g (os ++ rest)

namespace Game

variable {g g₁ g' : Game} {p : PlayerId} {Origin : Impact → Prop} {os os' : List Operation}

theorem Terraforms.credited (h : g.Terraforms p Origin os) (accepted : g.executeAll os = .accepted g') :
    g.Credited p Origin os :=
  List.append_nil os ▸ .cons h accepted (.nil g')

theorem Credited.append (h : g.Credited p Origin os) (accepted : g.executeAll os = .accepted g₁)
    (h' : g₁.Credited p Origin os') : g.Credited p Origin (os ++ os') := by
  induction h with
  | nil =>
    cases accepted
    exact h'
  | cons terraforms first _ ih =>
    obtain ⟨g₂, hg₂, rest⟩ := executeAll_append_eq_accepted.1 accepted
    rw [first] at hg₂
    cases hg₂
    rw [List.append_assoc]
    exact .cons terraforms first (ih rest)

theorem credited_of_quiet (quiet : ∀ o ∈ os, o.type.terraforms = false)
    (accepted : g.executeAll os = .accepted g') : g.Credited p Origin os := by
  induction os generalizing g with
  | nil => exact .nil g
  | cons o os ih =>
    obtain ⟨first, rest⟩ := List.forall_mem_cons.1 quiet
    obtain ⟨g₁, ho, hos⟩ := executeAll_cons_eq_accepted.1 accepted
    exact .cons (.quiet first) (executeAll_singleton ho) (ih rest hos)

theorem terraforms_of_isPreliminary {o : Operation} (h : o.isPreliminary = true) :
    o.type.terraforms = false := by
  unfold Operation.isPreliminary at h
  revert h
  cases o.type <;> decide

end Game

/-! ## What impacts do -/

namespace Impact

variable {i : Impact} {g g' : Game} {p : PlayerId} {source : Option Int} {answers : List Choice}
  {ops : List Operation} {more : List Impact} {Origin : Impact → Prop}

/-- **One impact** terraforms at one go, or does other things. -/
theorem Does.credited (does : i.Does p source g answers ops more)
    (accepted : g.executeAll ops = .accepted g') (origin : Origin i ∨ i.type = .gainResource) :
    g.Credited p Origin ops := by
  obtain ⟨d, hd, yields⟩ := does
  have quiet : (∀ t ∈ i.type.emits, t.terraforms = false) → g.Credited p Origin ops := fun never =>
    Game.credited_of_quiet (fun o ho => never _ (demand_emits hd ops yields.leads o ho)) accepted
  cases demand_makes hd with
  | skip | refuse | choose => cases yields
  | temperature | oxygen =>
    cases yields
    exact Game.Terraforms.credited (.step rfl) accepted
  | rating type =>
    cases yields
    have origin := origin.resolve_right (by simp [type])
    exact Game.Terraforms.credited (.granted ⟨i, source, origin, .inl type, hd⟩) accepted
  | ratingPerTag type =>
    cases yields
    have origin := origin.resolve_right (by simp [type])
    exact Game.Terraforms.credited (.granted ⟨i, source, origin, .inr type, hd⟩) accepted
  | ocean =>
    obtain ⟨l, -, rfl⟩ := placeOn_yields yields
    exact Game.Terraforms.credited (.step rfl) accepted
  | greenery =>
    obtain ⟨l, -, rfl⟩ := placeOn_yields yields
    by_cases maxed : g.board.oxygenMaxed = true
    · rw [if_pos maxed] at accepted ⊢
      exact Game.Terraforms.credited (.greenery maxed) accepted
    · rw [if_neg maxed] at accepted ⊢
      exact Game.Terraforms.credited (.greeneryStep (Bool.not_eq_true _ ▸ maxed)) accepted
  | production type =>
    refine quiet ?_
    rw [(emits_of_productive type).1]
    decide
  | ownCard type | gainPerCity type =>
    refine quiet ?_
    obtain type | type := type <;> rw [type] <;> decide
  | _ type =>
    refine quiet ?_
    rw [type]
    decide

end Impact

/-! ## From impacts to turns -/

section

variable {g₀ g' : Game} {p : PlayerId} {cs : List Choice} {Printed : Impact → Prop}

theorem Game.credited_of_preliminaries {g : Game} {os : List Operation} {Origin : Impact → Prop}
    (preliminaries : Operation.Preliminaries os) (accepted : g.executeAll os = .accepted g') :
    g.Credited p Origin os :=
  credited_of_quiet (fun o ho => terraforms_of_isPreliminary (preliminaries o ho)) accepted

/-- That operations are credited is an account of them. -/
theorem Impact.credited_accounts :
    Accounts g₀ p cs Printed (fun _ => True) (Game.Credited p (g₀.Origin Printed)) where
  nil g := .nil g
  append told accepted later := told.append accepted later
  keeps _ _ _ := trivial
  impact _ origin does _ accepted := does.credited accepted origin
  reactions {g} _ i _ accepted :=
    Game.credited_of_preliminaries (g.preliminaries_reactionsToImpact p i) accepted

/-- What holds of the impacts that are printed for a turn, and of all options below them. -/
theorem Game.Begins.credited {a : Attempt} {Printed' : Impact → Prop}
    (begins : g₀.Begins p cs Printed' a) (hg : a.game? = some g')
    (printed : ∀ i, Printed' i → i.Throughout Printed) :
    g₀.Credited p (g₀.Origin Printed) a.operations :=
  Impact.credited_accounts.begins begins hg trivial
    (fun underway => credited_of_preliminaries underway.preliminaries underway.leads) printed

end

/-! ## What follows an operation -/

/-- What credit says of one operation `o`, which comes after `pre`, meets the game `h`, and is followed by
`post`. -/
structure Game.Credits (p : PlayerId) (Origin : Impact → Prop) (h : Game) (pre : List Operation)
    (o : Operation) (post : List Operation) : Prop where
  step : o.isStep = true → ∃ rest, post = .raiseTerraformRating p :: rest
  greenery : o.type = .placeGreenery →
    ((∃ rest, post = .raiseOxygen :: rest) ↔ h.board.oxygen < Board.maxOxygen)
  rating : o.type = .raiseTerraformRating →
    (∃ front s, pre = front ++ [s] ∧ s.isStep = true) ∨
      (o.player = some p ∧ h.Grants p Origin o)

namespace Game

variable {g g₁ g' h : Game} {p : PlayerId} {Origin : Impact → Prop} {os pre post rest : List Operation}
  {o : Operation} {l : Location}

theorem below_of_not_oxygenMaxed {b : Board} (h : b.oxygenMaxed = false) :
    b.oxygen < Board.maxOxygen := by
  simpa [Board.oxygenMaxed] using h

theorem execute_raiseOxygen (accepted : g.execute .raiseOxygen = .accepted g') :
    g.board.oxygenMaxed = false := by
  obtain ⟨c, g₁, read, carried, -⟩ := execute_eq_accepted.1 accepted
  cases read
  obtain ⟨b, raised, -⟩ := map_eq_ok.1 carried
  exact (Board.raiseOxygen_eq_ok.1 raised).1

theorem execute_placeGreenery (accepted : g.execute (.placeGreenery p l) = .accepted g') :
    g'.board.oxygen = g.board.oxygen := by
  obtain ⟨c, g₁, read, carried, rfl⟩ := execute_eq_accepted.1 accepted
  cases read
  obtain ⟨b, placed, rfl⟩ := map_eq_ok.1 carried
  exact (Board.place_frame placed).2.1

/-- Something before the operation does not matter to it. -/
theorem Credits.after (credits : h.Credits p Origin pre o post) (os : List Operation) :
    h.Credits p Origin (os ++ pre) o post := by
  refine ⟨credits.step, credits.greenery, fun type => ?_⟩
  refine (credits.rating type).imp_left ?_
  rintro ⟨front, s, rfl, step⟩
  exact ⟨os ++ front, s, (List.append_assoc _ _ _).symm, step⟩

theorem credits_quiet (quiet : o.type.terraforms = false) : h.Credits p Origin pre o post := by
  obtain ⟨step, greenery, rating⟩ := Operation.isStep_of_quiet quiet
  exact ⟨fun is => absurd (is.symm.trans step) nofun, fun type => absurd type greenery,
    fun type => absurd type rating⟩

theorem credits_step (step : o.isStep = true) :
    h.Credits p Origin pre o (.raiseTerraformRating p :: rest) := by
  refine ⟨fun _ => ⟨rest, rfl⟩, fun type => ?_, fun type => ?_⟩
  · rw [Operation.isStep, type] at step
    cases step
  · rw [Operation.isStep, type] at step
    cases step

theorem credits_credit {s : Operation} {n : Int} (step : s.isStep = true) (front : List Operation) :
    h.Credits p Origin (front ++ [s]) (.raiseTerraformRating p n) post :=
  ⟨nofun, nofun, fun _ => .inl ⟨front, s, rfl, step⟩⟩

/-- A list is split at its head, or further on. -/
theorem split_cons {α : Type} {x y : α} {xs ys zs : List α} (h : ys ++ x :: zs = y :: xs) :
    (ys = [] ∧ x = y ∧ zs = xs) ∨ ∃ ys', ys = y :: ys' ∧ ys' ++ x :: zs = xs := by
  cases ys with
  | nil =>
    cases h
    exact .inl ⟨rfl, rfl, rfl⟩
  | cons a ys' =>
    obtain ⟨rfl, rest⟩ := List.cons.inj h
    exact .inr ⟨ys', rfl, rest⟩

theorem split_nil {α : Type} {x : α} {ys zs : List α} : ys ++ x :: zs ≠ [] := by simp

/-- Every operation of a stretch, when it is known how play goes on. -/
theorem Terraforms.credits (terraforms : g.Terraforms p Origin os)
    (first : g.executeAll os = .accepted g₁) (later : g₁.executeAll rest = .accepted g')
    {inner : List Operation} (split : pre ++ o :: inner = os) :
    ∃ h, g.executeAll pre = .accepted h ∧ h.Credits p Origin pre o (inner ++ rest) := by
  obtain ⟨h, hh, -⟩ := executeAll_append_eq_accepted.1 (split ▸ first)
  refine ⟨h, hh, ?_⟩
  cases terraforms with
  | quiet quiet =>
    obtain ⟨rfl, rfl, rfl⟩ | ⟨_, -, none⟩ := split_cons split
    · exact credits_quiet quiet
    · exact absurd none split_nil
  | step step =>
    obtain ⟨rfl, rfl, rfl⟩ | ⟨_, rfl, second⟩ := split_cons split
    · exact credits_step step
    obtain ⟨rfl, rfl, rfl⟩ | ⟨_, -, none⟩ := split_cons second
    · exact credits_credit step []
    · exact absurd none split_nil
  | greenery maxed =>
    obtain ⟨rfl, rfl, rfl⟩ | ⟨_, -, none⟩ := split_cons split
    · cases hh
      refine ⟨by rintro ⟨⟩, fun _ => ?_, by rintro ⟨⟩⟩
      have full : ¬g.board.oxygen < Board.maxOxygen := by simpa [Board.oxygenMaxed] using maxed
      refine ⟨?_, fun below => absurd below full⟩
      -- where no oxygen is left, no step can come next from somewhere else
      rintro ⟨rest, rfl⟩
      obtain ⟨g₂, raised, -⟩ := executeAll_cons_eq_accepted.1 later
      obtain ⟨g₃, placed, done⟩ := executeAll_cons_eq_accepted.1 first
      cases done
      rw [← execute_placeGreenery placed]
      exact below_of_not_oxygenMaxed (execute_raiseOxygen raised)
    · exact absurd none split_nil
  | greeneryStep below =>
    obtain ⟨rfl, rfl, rfl⟩ | ⟨_, rfl, second⟩ := split_cons split
    · cases hh
      refine ⟨by rintro ⟨⟩, fun _ => ?_, by rintro ⟨⟩⟩
      exact ⟨fun _ => below_of_not_oxygenMaxed below, fun _ => ⟨_, rfl⟩⟩
    obtain ⟨rfl, rfl, rfl⟩ | ⟨_, rfl, third⟩ := split_cons second
    · exact credits_step rfl
    obtain ⟨rfl, rfl, rfl⟩ | ⟨_, -, none⟩ := split_cons third
    · exact credits_credit rfl [_]
    · exact absurd none split_nil
  | granted grants =>
    obtain ⟨rfl, rfl, rfl⟩ | ⟨_, -, none⟩ := split_cons split
    · cases hh
      exact ⟨by rintro ⟨⟩, by rintro ⟨⟩, fun _ => .inr ⟨rfl, grants⟩⟩
    · exact absurd none split_nil

/-- **Every operation** that comes up in play that is credited. -/
theorem Credited.credits (credited : g.Credited p Origin os)
    (accepted : g.executeAll os = .accepted g') (split : pre ++ o :: post = os) :
    ∃ h, g.executeAll pre = .accepted h ∧ h.Credits p Origin pre o post := by
  induction credited generalizing pre with
  | nil => exact absurd split split_nil
  | @cons g g₁ os rest terraforms first _ ih =>
    obtain ⟨g₂, hg₂, later⟩ := executeAll_append_eq_accepted.1 accepted
    rw [first] at hg₂
    cases hg₂
    obtain ⟨_ | ⟨o', inner⟩, rfl, here⟩ | ⟨front, rfl, there⟩ := List.append_eq_append_iff.1 split
    · have start : [] ++ o :: post = rest := here
      obtain ⟨h, hh, credits⟩ := ih later start
      have leads := executeAll_trans first hh
      have credits := credits.after (pre ++ [])
      rw [List.append_nil, List.append_nil] at leads
      rw [List.append_nil, List.append_nil] at credits
      exact ⟨h, leads, credits⟩
    · obtain ⟨rfl, rfl⟩ := List.cons.inj here
      exact terraforms.credits first later rfl
    · obtain ⟨h, hh, credits⟩ := ih later there.symm
      exact ⟨h, executeAll_trans first hh, credits.after _⟩

end Game

/-! ## The account of the ratings -/

namespace Operation

/-- What the operation adds to the rating of `r`. -/
def ratingFor (r : PlayerId) (o : Operation) : Int :=
  if o.type = .raiseTerraformRating ∧ o.player = some r then o.count else 0

/-- What operations raise ratings by, apart from the credit that comes right after a step; `stepped` says
whether a step comes right before them. -/
def granted (stepped : Bool) : List Operation → Int
  | [] => 0
  | o :: os =>
    (if o.type = .raiseTerraformRating ∧ stepped = false then o.count else 0) + granted o.isStep os

variable {o : Operation} {p r : PlayerId} {l : Location} {n : Int}

theorem ratingFor_of_ne (other : o.type ≠ .raiseTerraformRating) : o.ratingFor r = 0 :=
  if_neg fun ⟨type, _⟩ => other type

@[simp] theorem ratingFor_raise : (raiseTerraformRating p n).ratingFor r = if r = p then n else 0 := by
  simp [ratingFor, raiseTerraformRating, eq_comm]

theorem type_ne_of_isStep (step : o.isStep = true) : o.type ≠ .raiseTerraformRating := by
  intro type
  simp [isStep, type] at step

@[simp] theorem ratingFor_raiseOxygen : raiseOxygen.ratingFor r = 0 := ratingFor_of_ne nofun

@[simp] theorem ratingFor_placeGreenery : (placeGreenery p l).ratingFor r = 0 :=
  ratingFor_of_ne nofun

@[simp] theorem isStep_raise : (raiseTerraformRating p n).isStep = false := rfl

@[simp] theorem isStep_raiseOxygen : raiseOxygen.isStep = true := rfl

@[simp] theorem isStep_placeGreenery : (placeGreenery p l).isStep = false := rfl

@[simp] theorem type_raise : (raiseTerraformRating p n).type = .raiseTerraformRating := rfl

@[simp] theorem count_raise : (raiseTerraformRating p n).count = n := rfl

@[simp] theorem type_raiseOxygen : raiseOxygen.type = .raiseOxygen := rfl

@[simp] theorem type_placeGreenery : (placeGreenery p l).type = .placeGreenery := rfl

end Operation

theorem Entry.rating_eq {c : Command} {p : PlayerId} {q : Player} {b : Books} (entry : Entry c p q b)
    (other : ∀ n, c ≠ .raiseTerraformRating p n) : b.rating = q.rating := by
  cases entry with
  | rating n here => exact absurd here (other n)
  | _ => rfl

namespace Game

variable {g g₁ g' : Game} {p r : PlayerId} {Origin : Impact → Prop} {os rest : List Operation}
  {o : Operation}

/-- **One operation** adds to the ratings what it says. -/
theorem rating_execute (accepted : g.execute o = .accepted g') (r : PlayerId) :
    (g'.player? r).map Player.rating = (g.player? r).map fun q => q.rating + o.ratingFor r := by
  have ids := playerIds_execute accepted
  obtain ⟨c, g₁, read, carried, rfl⟩ := execute_eq_accepted.1 accepted
  cases hq : g.player? r with
  | none =>
    have absent : r ∉ g.playerIds := by simp [mem_playerIds, hq]
    rw [← ids, mem_playerIds, not_exists] at absent
    rw [Option.eq_none_iff_forall_not_mem.2 absent]
    rfl
  | some q =>
    obtain ⟨q', hq'⟩ := mem_playerIds.1 (ids.symm ▸ mem_playerIds.2 ⟨q, hq⟩)
    rw [hq', Option.map_some, Option.map_some, Option.some.injEq]
    by_cases raises : ∃ n, c = .raiseTerraformRating r n
    · obtain ⟨n, rfl⟩ := raises
      obtain ⟨type, player, rfl⟩ := Operation.command?_eq_raiseTerraformRating.1 read
      obtain ⟨q₀, hq₀, rfl⟩ := update_eq_ok.1 carried
      have same := hq'.symm.trans (player?_withPlayer.trans (if_pos rfl))
      cases hq.symm.trans hq₀
      cases same
      rw [Operation.ratingFor, if_pos ⟨type, player⟩]
    · have other : ¬(o.type = .raiseTerraformRating ∧ o.player = some r) := by
        rintro ⟨type, player⟩
        have read' := Operation.command?_eq_raiseTerraformRating.2 ⟨type, player, rfl⟩
        exact raises ⟨o.count, Except.ok.inj (read.symm.trans read')⟩
      obtain ⟨q₀, hq₀, entry⟩ := (run_entered carried).players r q' hq'
      cases hq.symm.trans hq₀
      rw [Operation.ratingFor, if_neg other, Int.add_zero]
      exact entry.rating_eq fun n here => raises ⟨n, here⟩

theorem rating_executeAll (accepted : g.executeAll os = .accepted g') (r : PlayerId) :
    (g'.player? r).map Player.rating =
      (g.player? r).map fun q => q.rating + total (os.map (Operation.ratingFor r)) := by
  induction os generalizing g with
  | nil =>
    cases accepted
    simp
  | cons o os ih =>
    obtain ⟨g₁, ho, hos⟩ := executeAll_cons_eq_accepted.1 accepted
    have first := rating_execute ho r
    rw [ih hos, List.map_cons, total_cons]
    cases hq : g.player? r with
    | none =>
      rw [hq, Option.map_none, Option.map_eq_none_iff] at first
      rw [first, Option.map_none, Option.map_none]
    | some q =>
      rw [hq, Option.map_some] at first
      obtain ⟨q₁, hq₁, rating⟩ := Option.map_eq_some_iff.1 first
      rw [hq₁, Option.map_some, Option.map_some, rating, Int.add_assoc]

/-- A stretch adds one for its step, if there is one, and what it is granted. -/
theorem Terraforms.ratings (terraforms : g.Terraforms p Origin os) (r : PlayerId)
    (rest : List Operation) :
    total (os.map (Operation.ratingFor r)) =
        (if r = p then (os.countP Operation.isStep : Int) + Operation.granted false os else 0) ∧
      Operation.granted false (os ++ rest) =
        Operation.granted false os + Operation.granted false rest := by
  cases terraforms with
  | quiet quiet =>
    obtain ⟨step, -, rating⟩ := Operation.isStep_of_quiet quiet
    simp [Operation.ratingFor_of_ne rating, Operation.granted, step, rating]
  | step step =>
    have other := Operation.type_ne_of_isStep step
    simp [Operation.ratingFor_of_ne other, Operation.granted, step, other]
  | greenery => simp [Operation.granted]
  | greeneryStep => simp [Operation.granted, List.countP_cons]
  | granted => simp [Operation.granted]

/-- **The ratings** after play that is credited: those of `p` gain one for each step, and what is granted;
those of the others stay. -/
theorem Credited.ratings (credited : g.Credited p Origin os) (r : PlayerId) :
    total (os.map (Operation.ratingFor r)) =
      if r = p then (os.countP Operation.isStep : Int) + Operation.granted false os else 0 := by
  induction credited with
  | nil => simp [Operation.granted]
  | @cons g g₁ os rest terraforms _ _ ih =>
    obtain ⟨adds, splits⟩ := terraforms.ratings r rest
    rw [List.map_append, total_append, adds, ih, splits, List.countP_append]
    split
    · push_cast
      ring
    · rfl

/-! ## Turns -/

/-- **Terraforming is credited**, once, to the player whose turn it is, and no rating moves otherwise but
where an impact that is printed for the turn or on the board grants it. -/
theorem terraforming_credited {cs : List Choice} {Printed : Impact → Prop} {a : Attempt}
    (acts : g.Acts p cs Printed a) (hg : a.game? = some g') :
    (∀ pre o post, pre ++ o :: post = a.operations → ∃ h, g.executeAll pre = .accepted h ∧
      h.Credits p (g.Origin (Impact.Below Printed)) pre o post) ∧
    ∀ r, (g'.player? r).map Player.rating = (g.player? r).map fun q => q.rating +
      if r = p then (a.operations.countP Operation.isStep : Int) + Operation.granted false a.operations
      else 0 := by
  have accepted := acts.begins.replays g' hg
  have credited : g.Credited p (g.Origin (Impact.Below Printed)) a.operations :=
    acts.begins.credited hg fun _ => Impact.throughout_below
  refine ⟨fun pre o post split => credited.credits accepted split, fun r => ?_⟩
  rw [rating_executeAll accepted r, credited.ratings r]

/-- In `newcomer` it gets warmer, for one step of rating, and two more are granted. -/
theorem terraforming_credited_newcomer :
    ∃ a g', newcomer.Acts 1 [] (· ∈ [.raiseTemperature, .raiseTerraformRating 2]) a ∧
      a.game? = some g' ∧
      a.operations = [.raiseTemperature, .raiseTerraformRating 1, .raiseTerraformRating 1 2] ∧
      (g'.player? 1).map Player.rating = (newcomer.player? 1).map fun q => q.rating + 3 := by
  have resolves : ((newcomer.resolve 1 [.raiseTemperature, .raiseTerraformRating 2]).toOption.bind
      fun a => a.game?.bind fun g' => if a.operations =
        [.raiseTemperature, .raiseTerraformRating 1, .raiseTerraformRating 1 2] then some (a, g')
        else none).isSome = true := by
    decide +kernel
  obtain ⟨_, resolves⟩ := Option.isSome_iff_exists.1 resolves
  obtain ⟨a, ha, resolves⟩ := Option.bind_eq_some_iff.1 resolves
  obtain ⟨g', hg, resolves⟩ := Option.bind_eq_some_iff.1 resolves
  have operations : a.operations =
      [.raiseTemperature, .raiseTerraformRating 1, .raiseTerraformRating 1 2] := by
    by_contra other
    simp [other] at resolves
  have acts : newcomer.Acts 1 [] (· ∈ [.raiseTemperature, .raiseTerraformRating 2]) a :=
    .resumption (toOption_eq_some.1 ha)
  have ratings := (terraforming_credited acts hg).2 1
  rw [operations] at ratings
  exact ⟨a, g', acts, hg, operations, ratings⟩

end Game

end Terraforming
