import Terraforming.Proofs.Game.Floors
import Terraforming.Proofs.Game.Opening
import Terraforming.Proofs.Turn.Answers
import Terraforming.Proofs.Turn.Replay

/-!
# Play from an opening

A session starts from an opening with the built-in cards and goes on by turns of any player,
attempts that are taken up again, purchases and ends of generations, in any order.  Nobody is ever
stuck: every action of a player who is there answers with an attempt.

* `Session` — the games that play can lead to, with the attempts that were left open on the way;
* `Session.regular` — the invariant: the game is regular, and what was left open can be taken up;
* `Session.takeTurn_total` — hence no turn ends in a fault.
-/

namespace Terraforming

variable {g g' : Game} {p : PlayerId} {q : Player} {a : Attempt} {cs : List Choice}

/-! ## Attempts left open -/

/-- What an attempt of a player leaves open, if it waits for a decision. -/
def Attempt.leftOpen (p : PlayerId) : Attempt → List OpenAttempt
  | waiting _ remaining _ source _ => [⟨p, remaining, source⟩]
  | _ => []

/-- The game that an attempt leads to is regular, and what the attempt leaves open can be taken up
there, as can what was left open before. -/
theorem Attempt.Orderly.live {os : List OpenAttempt} (orderly : a.Orderly g p)
    (hg : a.game? = some g') (live : ∀ o ∈ os, o.Live g) :
    g'.Regular ∧ ∀ o ∈ os ++ a.leftOpen p, o.Live g' := by
  cases a with
  | unplayable r => cases hg
  | waiting ops remaining pending source g₁ =>
    cases hg
    obtain ⟨regular, kept, left⟩ := orderly
    refine ⟨regular, fun o ho => ?_⟩
    rcases List.mem_append.1 ho with ho | ho
    · exact (live o ho).mono kept
    · rw [List.mem_singleton.1 ho]
      exact left
  | complete ops g₁ =>
    cases hg
    obtain ⟨regular, kept⟩ := orderly
    refine ⟨regular, fun o ho => ?_⟩
    rcases List.mem_append.1 ho with ho | ho
    · exact (live o ho).mono kept
    · exact absurd ho List.not_mem_nil

theorem Game.Answers.orderly {move : Except Fault Attempt} (answers : g.Answers p move)
    (h : move = .ok a) : a.Orderly g p := by
  obtain ⟨a', ha', orderly⟩ := answers
  obtain rfl : a = a' := Except.ok.inj (h.symm.trans ha')
  exact orderly

/-- Take up an attempt that was left open. -/
def OpenAttempt.resume (o : OpenAttempt) (g : Game) (cs : List Choice) : Except Fault Attempt :=
  g.resolve o.player o.remaining cs o.source

/-- What was left open can be taken up with any choices. -/
theorem OpenAttempt.Live.answers {o : OpenAttempt} (live : o.Live g) (regular : g.Regular)
    (cs : List Choice) : g.Answers o.player (o.resume g cs) := by
  obtain ⟨q, hq⟩ := live.present
  exact Impact.resolve_answers (Progress.follows_start regular) hq live.ready

namespace Game

/-! ## The steps of play -/

/-- What a turn of whoever it may be leads to is orderly: it takes a player who is there, or changes
nothing. -/
theorem takeTurn_orderly {action : TurnAction} (regular : g.Regular)
    (h : g.takeTurn p action cs = .ok a) : a.Orderly g p := by
  cases takeTurn_cases h with
  | card _ _ h =>
    obtain ⟨q, hq, -⟩ := playCard_cases h
    exact (playCard_answers regular hq _ cs).orderly h
  | inPlay _ h =>
    obtain ⟨q, hq, -⟩ := performAction_cases h
    exact (performAction_answers regular hq _ _ cs).orderly h
  | project _ _ h =>
    cases performProject_cases h with
    | refused => trivial
    | resolved _ hq => exact (performProject_answers regular hq _ cs).orderly h
  | milestone _ h =>
    obtain ⟨q, hq, -⟩ := claimMilestoneTurn_cases h
    exact (claimMilestoneTurn_answers regular hq _).orderly h
  | award _ h =>
    obtain ⟨q, hq, -⟩ := fundAwardTurn_cases h
    exact (fundAwardTurn_answers regular hq _).orderly h
  | pass => exact ⟨regular, .refl g⟩

theorem purchase_reaches {cards : List Card} (regular : g.Regular)
    (made : ∀ c ∈ cards, c.wellMade = true) (h : g.purchase p cards = .ok (some g')) :
    g.Reaches [.purchaseCards p cards] g' := by
  obtain ⟨c, g₁, ⟨⟩, hr, rfl⟩ := execute_eq_accepted.1 (purchase_eq_some h)
  exact reaches_run (c := .purchaseCards p cards) regular rfl made hr

/-- Everyone in a list of players can produce. -/
theorem reaches_produce (ps : List PlayerId) (regular : g.Regular)
    (present : ∀ p ∈ ps, ∃ q, g.player? p = some q) :
    ∃ g', g.Reaches (ps.map .produce) g' := by
  induction ps generalizing g with
  | nil => exact ⟨g, .nil regular⟩
  | cons p ps ih =>
    obtain ⟨q, hq⟩ := present p List.mem_cons_self
    have first := reaches_run (o := .produce p) (c := .produce p) regular rfl trivial
      (produce_eq_ok.2 ⟨q, hq, Player.canProduce (regular.sound.players p q hq).balances
        (regular.stocked.players p q hq).production, rfl⟩)
    obtain ⟨g', rest⟩ := ih first.regular fun p' hp' => by
      obtain ⟨q', hq'⟩ := present p' (List.mem_cons_of_mem p hp')
      exact first.player hq'
    exact ⟨g', first.cons rest⟩

/-- A generation can always end. -/
theorem reaches_generationEnd (regular : g.Regular) : ∃ g', g.Reaches g.generationEnd g' := by
  obtain ⟨g₁, produced⟩ := reaches_produce g.playerIds regular fun p hp =>
    Option.isSome_iff_exists.1 (Table.mem_keys.1 hp)
  have untapped := reaches_run (o := .resetCardActions) (c := .resetCardActions)
    produced.regular rfl trivial rfl
  have advanced := reaches_run (o := .advanceGeneration) (c := .advanceGeneration)
    untapped.regular rfl trivial rfl
  exact ⟨_, produced.append (untapped.cons advanced)⟩

/-! ## Sessions -/

/-- The games that play from `g₀` can lead to, each with the attempts left open on the way. -/
inductive Session (g₀ : Game) : Game → List OpenAttempt → Prop
  | start : Session g₀ g₀ []
  /-- Going over to the game that a turn action answers with, complete or not. -/
  | turn {g g' : Game} {os : List OpenAttempt} {p : PlayerId} {action : TurnAction}
      {cs : List Choice} {a : Attempt} : Session g₀ g os → g.takeTurn p action cs = .ok a →
      a.game? = some g' → Session g₀ g' (os ++ a.leftOpen p)
  /-- Taking up an attempt that was left open, now or earlier. -/
  | resumption {g g' : Game} {os : List OpenAttempt} {o : OpenAttempt} {cs : List Choice}
      {a : Attempt} : Session g₀ g os → o ∈ os → o.resume g cs = .ok a →
      a.game? = some g' → Session g₀ g' (os ++ a.leftOpen o.player)
  | purchase {g g' : Game} {os : List OpenAttempt} {p : PlayerId} {cards : List Card} :
      Session g₀ g os → (∀ c ∈ cards, c.BuiltIn) → g.purchase p cards = .ok (some g') →
      Session g₀ g' os
  | generationEnd {g : Game} {os : List OpenAttempt} : Session g₀ g os →
      Session g₀ g.advance.game os

variable {g₀ : Game} {os : List OpenAttempt}

/-- Play keeps the game regular, and what was left open can be taken up. -/
theorem Session.regular (opening : g₀.Opening) (session : Session g₀ g os) :
    g.Regular ∧ ∀ o ∈ os, o.Live g := by
  induction session with
  | start => exact ⟨opening.regular, fun o ho => absurd ho List.not_mem_nil⟩
  | turn session taken hg ih => exact (takeTurn_orderly ih.1 taken).live hg ih.2
  | resumption session mem resumed hg ih =>
    exact (((ih.2 _ mem).answers ih.1 _).orderly resumed).live hg ih.2
  | purchase session builtIn bought ih =>
    have bought := purchase_reaches ih.1 (fun c hc => (builtIn c hc).wellMade) bought
    exact ⟨bought.regular, fun o ho => (ih.2 o ho).mono bought.keeps⟩
  | generationEnd session ih =>
    obtain ⟨g', ended⟩ := reaches_generationEnd ih.1
    rw [advance, ended.accepted]
    exact ⟨ended.regular, fun o ho => (ih.2 o ho).mono ended.keeps⟩

/-- What was left open can be taken up at any time later, whatever is chosen. -/
theorem Session.resume_total (opening : g₀.Opening) (session : Session g₀ g os)
    {o : OpenAttempt} (ho : o ∈ os) (cs : List Choice) : ∃ a, o.resume g cs = .ok a := by
  obtain ⟨regular, live⟩ := session.regular opening
  obtain ⟨a, ha, -⟩ := (live o ho).answers regular cs
  exact ⟨a, ha⟩

/-- **No turn ends in a fault.**  In every game that play from an opening leads to, every action of
a player who is there, if it carries what its type needs, answers with an attempt, whatever is
chosen. -/
theorem Session.takeTurn_total (opening : g₀.Opening) (session : Session g₀ g os)
    (hq : g.player? p = some q) {action : TurnAction} (carries : action.Carries)
    (cs : List Choice) : ∃ a, g.takeTurn p action cs = .ok a := by
  obtain ⟨a, ha, -⟩ := takeTurn_answers (session.regular opening).1 hq carries cs
  exact ⟨a, ha⟩

/-! ## A session -/

/-- The built-in cards of some names. -/
def builtInCards (names : List String) : List Card :=
  Catalog.corporate.cards.filter fun c => c.name ∈ names

theorem builtIn_of_mem {names : List String} {c : Card} (hc : c ∈ builtInCards names) :
    c.BuiltIn :=
  ⟨c, List.mem_of_mem_filter hc, Card.beq_self c⟩

/-- A player with two cards in play, and microbes on one of them. -/
def settler : PlayerSetup where
  id := 1
  megacredits := some 30
  hand := builtInCards ["Arctic Algae"]
  played := builtInCards ["Tardigrades", "Extreme-Cold Fungus"]
  cardResources := [("Tardigrades", .microbe, 2)]

/-- A game of one settler. -/
def outpost : Game where
  board := .standard
  players := Table.ofList [(1, settler.player.toOption.getD { id := 1 })]
  deck := builtInCards ["Asteroid", "Comet"]

theorem settler_opening {q : Player} (hq : settler.player = .ok q) : q.Opening where
  setup := ⟨settler, hq,
    fun c hc => builtIn_of_mem (show c ∈ builtInCards ["Arctic Algae"] from hc),
    fun c hc => builtIn_of_mem (show c ∈ builtInCards ["Tardigrades", "Extreme-Cold Fungus"] from hc)⟩
  production := by
    have all : ∀ r ∈ Resource.all, (settler.player.toOption.any fun q =>
        q.productionFloor (some r) ≤ q.productionOf (some r)) = true := by decide +kernel
    intro r
    have enough := all r (by cases r <;> decide)
    rw [hq] at enough
    exact of_decide_eq_true enough
  cardResources := by
    have all : (settler.player.toOption.any fun q => q.cardResources.entries.all fun e =>
        0 ≤ e.2 && (q.played? e.1.instanceId).any fun c =>
          c.card.supportedResource? = some e.1.kind) = true := by decide +kernel
    intro h n hn
    rw [hq] at all
    have lies := List.all_eq_true.1 all (h, n) (Table.get?_eq_some_iff.1 hn)
    rw [Bool.and_eq_true, decide_eq_true_eq] at lies
    obtain ⟨c, hc, holds⟩ := (Option.any_eq_true _ _).1 lies.2
    exact ⟨lies.1, c, hc, of_decide_eq_true holds⟩

theorem outpost_opening : outpost.Opening where
  board := rfl
  players := by
    intro p q hq
    have set : settler.player.toOption.isSome = true := by decide +kernel
    obtain ⟨q₁, hq₁⟩ := Option.isSome_iff_exists.1 set
    obtain ⟨-, rfl⟩ : p = 1 ∧ q = q₁ := by
      rw [player?, outpost, hq₁] at hq
      exact Table.get?_ofList_singleton.1 hq
    exact settler_opening (toOption_eq_some.1 hq₁)
  deck := fun c hc => builtIn_of_mem (show c ∈ builtInCards ["Asteroid", "Comet"] from hc)
  discard := fun c hc => absurd (show c ∈ ([] : List Card) from hc) List.not_mem_nil
  claimed := rfl
  funded := rfl

/-- In `outpost` the action of a card is left open and taken up, and a generation ends; then the other
card can be used. -/
theorem Session.takeTurn_total_outpost :
    ∃ g os q, outpost.Opening ∧ Session outpost g os ∧ os ≠ [] ∧ g.player? 1 = some q ∧
      (TurnAction.performAction 0 0).Carries ∧
      ∃ a, g.takeTurn 1 (.performAction 0 0) [] = .ok a := by
  have plays : ((outpost.takeTurn 1 (.performAction 1 0)).toOption.bind fun a =>
      a.game?.bind fun g₁ => (a.leftOpen 1).head?.bind fun o =>
        (o.resume g₁ [.ofOption 0]).toOption.bind fun b =>
          b.game?.bind fun g₂ => (g₂.advance.game.player? 1).map fun q =>
            (a, g₁, o, b, g₂, q)).isSome = true := by
    decide +kernel
  obtain ⟨_, h⟩ := Option.isSome_iff_exists.1 plays
  obtain ⟨a, ha, h⟩ := Option.bind_eq_some_iff.1 h
  obtain ⟨g₁, hg₁, h⟩ := Option.bind_eq_some_iff.1 h
  obtain ⟨o, ho, h⟩ := Option.bind_eq_some_iff.1 h
  obtain ⟨b, hb, h⟩ := Option.bind_eq_some_iff.1 h
  obtain ⟨g₂, hg₂, h⟩ := Option.bind_eq_some_iff.1 h
  obtain ⟨q, hq, -⟩ := Option.map_eq_some_iff.1 h
  have left : o ∈ [] ++ a.leftOpen 1 := List.mem_of_mem_head? ho
  have session : Session outpost g₂.advance.game (([] ++ a.leftOpen 1) ++ b.leftOpen o.player) :=
    .generationEnd (.resumption (.turn .start (toOption_eq_some.1 ha) hg₁) left
      (toOption_eq_some.1 hb) hg₂)
  have carries : (TurnAction.performAction 0 0).Carries := rfl
  exact ⟨_, _, q, outpost_opening, session, List.ne_nil_of_mem (List.mem_append_left _ left), hq,
    carries, session.takeTurn_total outpost_opening hq carries []⟩

end Game

end Terraforming
