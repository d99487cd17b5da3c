import Mathlib.Data.List.Induction
import Terraforming.Proofs.Game.Players
import Terraforming.Proofs.Turn.Replay
import Terraforming.Proofs.Turn.Session

/-!
# Actions that are used

Using an action taps its card, whichever of its actions it is and whatever is left to be resolved.  A card
that is tapped cannot be tapped again, and two types of operations make it ready: production readies the
cards of one player, a reset those of everybody.  So which cards are tapped can be read off the log from
its end: a card is if the last operation that tapped it comes later than the last that readied it
(`Operation.LastTapped`).

* `Player.Fares.tapped` — what every command does to a card, seen from the seat of its player;
* `Game.tapped_executeAll` — and what a run of operations does;
* `Game.tapped_once` — between two uses of a card, its player readies it.
-/

namespace Terraforming

/-! ## Tapping and readying -/

namespace Operation

/-- The operation taps card `i` of player `p`. -/
def taps (p : PlayerId) (i : Int) (o : Operation) : Bool :=
  o.type = .markCardActionUsed && o.player = some p && o.instanceId = some i

/-- The operation readies every card of player `p`. -/
def readies (p : PlayerId) (o : Operation) : Bool :=
  o.type = .resetCardActions || o.type = .produce && o.player = some p

/-- Some operation taps the card, and no later one readies it. -/
def LastTapped (p : PlayerId) (i : Int) (os : List Operation) : Prop :=
  ∃ pre m post, os = pre ++ m :: post ∧ m.taps p i = true ∧ ∀ o ∈ post, o.readies p = false

variable {p : PlayerId} {i : Int} {o : Operation} {os : List Operation} {c : Command}

theorem taps_iff : o.taps p i = true ↔ o.command? = .ok (.markCardActionUsed p i) := by
  simp only [taps, Bool.and_eq_true, decide_eq_true_eq, command?_eq_ok]
  constructor
  · rintro ⟨⟨type, player⟩, instanceId⟩
    rw [complete?, type, player, instanceId]
    rfl
  · intro complete
    have type : o.type = .markCardActionUsed :=
      List.mem_singleton.1 (type_of_command? (command?_eq_ok.2 complete))
    simp only [complete?, type, Option.bind_eq_bind, Option.bind_eq_some_iff] at complete
    obtain ⟨p, player, i, instanceId, ⟨⟩⟩ := complete
    exact ⟨⟨type, player⟩, instanceId⟩

theorem readies_iff :
    o.readies p = true ↔ o.command? = .ok .resetCardActions ∨ o.command? = .ok (.produce p) := by
  simp only [readies, Bool.or_eq_true, Bool.and_eq_true, decide_eq_true_eq]
  constructor
  · rintro (type | ⟨type, player⟩)
    · left
      rw [command?_eq_ok, complete?, type]
    · right
      rw [command?_eq_ok, complete?, type, player]
      rfl
  · rintro (read | read)
    · exact .inl (List.mem_singleton.1 (type_of_command? read))
    · exact .inr ⟨List.mem_singleton.1 (type_of_command? read), player_of_command? read rfl⟩

theorem lastTapped_nil : ¬ LastTapped p i [] := by
  rintro ⟨pre, m, post, split, -⟩
  cases pre <;> cases split

/-- The last operation decides, or leaves it as it was. -/
theorem lastTapped_concat :
    LastTapped p i (os ++ [o]) ↔ o.taps p i = true ∨ LastTapped p i os ∧ o.readies p = false := by
  constructor
  · rintro ⟨pre, m, post, split, taps, quiet⟩
    rcases List.eq_nil_or_concat post with rfl | ⟨post, o', rfl⟩
    · obtain ⟨-, ⟨⟩⟩ := List.append_inj' split rfl
      exact .inl taps
    · rw [List.concat_eq_append, ← List.cons_append, ← List.append_assoc] at split
      obtain ⟨rfl, ⟨⟩⟩ := List.append_inj' split rfl
      refine .inr ⟨⟨pre, m, post, rfl, taps, fun o ho => ?_⟩, ?_⟩
      · exact quiet o (by simp [ho])
      · exact quiet _ (by simp)
  · rintro (taps | ⟨⟨pre, m, post, rfl, taps, quiet⟩, silent⟩)
    · exact ⟨os, o, [], rfl, taps, List.forall_mem_nil _⟩
    · refine ⟨pre, m, post ++ [o], List.append_assoc .., taps, fun o' ho' => ?_⟩
      rcases List.mem_append.1 ho' with before | last
      · exact quiet o' before
      · exact List.mem_singleton.1 last ▸ silent

/-- The same, read from the beginning. -/
theorem lastTapped_iff_foldl : LastTapped p i os ↔
    os.foldl (fun tapped o => o.taps p i || (tapped && !o.readies p)) false = true := by
  induction os using List.reverseRecOn with
  | nil => simp [lastTapped_nil]
  | append_singleton os o ih => simp [lastTapped_concat, ih]

end Operation

/-! ## Tapped cards -/

/-- **Whether a card is tapped** after a command is settled by the command and by whether it was before. -/
theorem Player.Fares.tapped {p : PlayerId} {q q' : Player} {c : Command} (fares : q.Fares p c q')
    (i : Int) : q'.tapped.contains i = true ↔ c = .markCardActionUsed p i ∨
      q.tapped.contains i = true ∧ c ≠ .resetCardActions ∧ c ≠ .produce p := by
  have ready : Table.contains (∅ : KeySet Int) i = false := rfl
  cases fares with
  | own becomes =>
    cases becomes with
    | @tapped j =>
      have here : i = j ↔ j = i := eq_comm
      simp [KeySet.add, Table.contains_insert, here]
    | produced => simp [ready]
    | _ => simp
  | untapped => simp [ready]
  | honored shown =>
    cases c with
    | placeTile | raiseTemperature | raiseOxygen | claimMilestone | fundAward => simp
    | _ => cases shown
  | bystander apart notReset =>
    have notTapped : c ≠ .markCardActionUsed p i := by
      rintro rfl
      exact apart rfl
    have notProduced : c ≠ .produce p := by
      rintro rfl
      exact apart rfl
    simp [notTapped, notReset, notProduced]
  | _ => simp

/-- What is tapped is in play, and has actions. -/
def Player.TapsInPlay (q : Player) : Prop :=
  ∀ i, q.tapped.contains i = true → ∃ d, q.played? i = some d ∧ d.card.actions ≠ []

theorem Player.Fares.tapsInPlay {p : PlayerId} {q q' : Player} {c : Command} (fares : q.Fares p c q')
    (inPlay : q.TapsInPlay) : q'.TapsInPlay := by
  intro i tapped
  suffices before : ∃ d, q.played? i = some d ∧ d.card.actions ≠ [] by
    obtain ⟨d, hd, actions⟩ := before
    exact ⟨d, played?_of_prefix fares.played hd, actions⟩
  rcases (fares.tapped i).1 tapped with rfl | ⟨before, -⟩
  · cases fares with
    | own becomes =>
      cases becomes with
      | tapped hd actions => exact ⟨_, hd, actions⟩
    | honored shown => cases shown
    | bystander apart => exact absurd rfl apart
  · exact inPlay i before

namespace Game

variable {g g' g₀ : Game} {p : PlayerId} {q q' : Player} {i : Int} {o : Operation}
  {os : List Operation}

/-- **Which cards are tapped** after a run is read off its operations. -/
theorem tapped_executeAll (h : g.executeAll os = .accepted g') (hq : g.player? p = some q)
    (ready : q.tapped = ∅) (hq' : g'.player? p = some q') :
    q'.tapped.contains i = true ↔ Operation.LastTapped p i os := by
  obtain ⟨q₁, hq₁, settled⟩ := executeAll_folds (v := fun q => q.tapped.contains i)
    (f := fun tapped o => o.taps p i || (tapped && !o.readies p)) (fun {o c q q'} read fares => by
      rw [Bool.eq_iff_iff, fares.tapped i]
      simp [Operation.taps_iff, ← Bool.not_eq_true, Operation.readies_iff, read]) h hq
  obtain rfl : q₁ = q' := Option.some.inj (hq₁.symm.trans hq')
  have clear : q.tapped.contains i = false := by
    rw [ready]
    rfl
  rw [Operation.lastTapped_iff_foldl, ← clear, ← settled]

/-- Only a card that is not tapped is tapped. -/
theorem untapped_of_taps (h : g.execute o = .accepted g') (taps : o.taps p i = true) :
    ∃ q, g.player? p = some q ∧ q.tapped.contains i = false := by
  obtain ⟨c, g₁, read, carried, -⟩ := execute_eq_accepted.1 h
  obtain rfl := Except.ok.inj (read.symm.trans (Operation.taps_iff.1 taps))
  cases run_iff.1 carried with
  | alone hq becomes =>
    cases becomes with
    | tapped _ _ untapped => exact ⟨_, hq, untapped⟩

/-- **Between two uses** of a card its player readies it. -/
theorem tapped_once (ready : ∀ p q, g.player? p = some q → q.tapped = ∅)
    (h : g.executeAll os = .accepted g') {pre mid post : List Operation} {m m' : Operation}
    (split : os = pre ++ m :: mid ++ m' :: post) (taps : m.taps p i = true)
    (again : m'.taps p i = true) : ∃ o ∈ mid, o.readies p = true := by
  by_contra never
  have quiet : ∀ o ∈ mid, o.readies p = false := fun o ho =>
    Bool.eq_false_iff.2 fun readies => never ⟨o, ho, readies⟩
  rw [split] at h
  obtain ⟨g₁, before, after⟩ := executeAll_append_eq_accepted.1 h
  obtain ⟨g₂, used, -⟩ := executeAll_cons_eq_accepted.1 after
  obtain ⟨q₁, hq₁, untapped⟩ := untapped_of_taps used again
  obtain ⟨q, hq⟩ := exists_before before hq₁
  have tapped : q₁.tapped.contains i = true :=
    (tapped_executeAll before hq (ready p q hq) hq₁).2 ⟨pre, m, mid, rfl, taps, quiet⟩
  rw [untapped] at tapped
  cases tapped

theorem tapsInPlay_executeAll (h : g.executeAll os = .accepted g')
    (inPlay : ∀ q, g.player? p = some q → q.TapsInPlay) : ∀ q, g'.player? p = some q → q.TapsInPlay := by
  refine executeAll_keeps (I := fun g => ∀ q, g.player? p = some q → q.TapsInPlay) h ?_ inPlay
  intro o _ g₁ g₂ inPlay accepted q₂ hq₂
  obtain ⟨q₁, hq₁⟩ := exists_before (executeAll_singleton accepted) hq₂
  obtain ⟨c, q', -, hq', fares⟩ := execute_fares accepted hq₁
  obtain rfl : q' = q₂ := Option.some.inj (hq'.symm.trans hq₂)
  exact fares.tapsInPlay (inPlay q₁ hq₁)

/-- A tapped card cannot be used, whichever of its actions is asked for and whatever is chosen. -/
theorem performAction_tapped {d : PlayedCard} (hq : g.player? p = some q) (hd : q.played? i = some d)
    (actions : d.card.actions ≠ []) (tapped : q.tapped.contains i = true) (n : Int) (cs : List Choice) :
    g.performAction p (some i) n cs = .ok (.unplayable (.actionAlreadyUsed d.card.name)) := by
  simp [performAction, player_eq_ok.2 hq, hd, actions, tapped]

/-- **A card is used once in a generation.**  From a game in which nothing is tapped, whatever is done in
whatever order, between two operations of the log that tap the same card of the same player there is one
that readies the cards of that player; a card is tapped if and only if none comes after the last that
tapped it; and then it is in play, and none of its actions can be used. -/
theorem actions_used_once (ready : ∀ p q, g₀.player? p = some q → q.tapped = ∅)
    (run : Relation.ReflTransGen Moves g₀ g) :
    ∃ os, g.log = g₀.log ++ os ∧
      (∀ p i pre m mid m' post, os = pre ++ m :: mid ++ m' :: post → m.taps p i = true →
        m'.taps p i = true → ∃ o ∈ mid, o.readies p = true) ∧
      ∀ p q, g.player? p = some q → ∀ i,
        (q.tapped.contains i = true ↔ Operation.LastTapped p i os) ∧
        (q.tapped.contains i = true → ∃ d, q.played? i = some d ∧ ∀ n cs,
          g.performAction p (some i) n cs = .ok (.unplayable (.actionAlreadyUsed d.card.name))) := by
  obtain ⟨os, logged, accepted⟩ := log_replays.1 g₀ g run
  refine ⟨os, logged, fun p i pre m mid m' post split => tapped_once ready accepted split, ?_⟩
  intro p q hq i
  obtain ⟨q₀, hq₀⟩ := exists_before accepted hq
  refine ⟨tapped_executeAll accepted hq₀ (ready p q₀ hq₀) hq, fun tapped => ?_⟩
  have start : ∀ q, g₀.player? p = some q → q.TapsInPlay := by
    intro q hq i tapped
    rw [ready p q hq] at tapped
    cases tapped
  obtain ⟨d, hd, actions⟩ := tapsInPlay_executeAll accepted start q hq i tapped
  exact ⟨d, hd, performAction_tapped hq hd actions tapped⟩

/-- In `outpost` an action is used, the generation ends, and it is used again. -/
theorem actions_used_once_outpost :
    ∃ g q, (∀ p q, outpost.player? p = some q → q.tapped = ∅) ∧
      Relation.ReflTransGen Moves outpost g ∧ g.player? 1 = some q ∧ q.tapped.contains 0 = true ∧
      (∃ os, g.log = outpost.log ++ os ∧ Operation.LastTapped 1 0 os) ∧
      ∃ d, q.played? 0 = some d ∧ ∀ n cs,
        g.performAction 1 (some 0) n cs = .ok (.unplayable (.actionAlreadyUsed d.card.name)) := by
  have plays : ((outpost.takeTurn 1 (.performAction 0 0)).toOption.bind fun a =>
      a.game?.bind fun g₁ => g₁.advance.toExcept.toOption.bind fun g₂ =>
        (g₂.takeTurn 1 (.performAction 0 0)).toOption.bind fun b => b.game?.bind fun g₃ =>
          (g₃.player? 1).bind fun q => if q.tapped.contains 0 then
            some (a, g₁, g₂, b, g₃, q) else none).isSome = true := by
    decide +kernel
  obtain ⟨_, h⟩ := Option.isSome_iff_exists.1 plays
  obtain ⟨a, ha, h⟩ := Option.bind_eq_some_iff.1 h
  obtain ⟨g₁, hg₁, h⟩ := Option.bind_eq_some_iff.1 h
  obtain ⟨g₂, hg₂, h⟩ := Option.bind_eq_some_iff.1 h
  obtain ⟨b, hb, h⟩ := Option.bind_eq_some_iff.1 h
  obtain ⟨g₃, hg₃, h⟩ := Option.bind_eq_some_iff.1 h
  obtain ⟨q, hq, h⟩ := Option.bind_eq_some_iff.1 h
  have tapped : q.tapped.contains 0 = true := by
    by_contra untapped
    rw [if_neg untapped] at h
    cases h
  have ended : g₁.advance = .accepted g₂ := toExcept_eq_ok.1 (toOption_eq_some.1 hg₂)
  have run : Relation.ReflTransGen Moves outpost g₃ :=
    .tail (.tail (.tail .refl (.attempt (.takeTurn (toOption_eq_some.1 ha)) hg₁)) (.advance ended))
      (.attempt (.takeTurn (toOption_eq_some.1 hb)) hg₃)
  have ready : ∀ p q, outpost.player? p = some q → q.tapped = ∅ := by
    intro p q hq
    obtain ⟨s, hs, hand, played⟩ := (outpost_opening.players p q hq).setup
    obtain ⟨seated, -⟩ := PlayerSetup.seated (fun c hc => (hand c hc).wellMade)
      (fun c hc => (played c hc).wellMade) hs
    exact seated.tapped
  obtain ⟨os, logged, -, cards⟩ := actions_used_once ready run
  obtain ⟨last, unusable⟩ := cards 1 q hq 0
  exact ⟨g₃, q, ready, run, hq, tapped, ⟨os, logged, last.1 tapped⟩, unusable tapped⟩

end Game

end Terraforming
