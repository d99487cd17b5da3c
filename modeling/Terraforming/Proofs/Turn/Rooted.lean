import Terraforming.Proofs.Turn.Failures
import Terraforming.Proofs.Turn.Misfits

/-!
# Impacts that put resources on cards

Four types of impacts have to do with resources on cards.  One is about the card that it comes from, and
is printed there or on the board (`Impact.Rooted`); two list cards that hold the kind, and one lists cards
that have some on them.  Gains of effects are about the card that prints the effect.  So whatever a
resolution does to resources on cards has a reason, and if it fails because a card cannot hold something,
this is explained.

* `Impact.demand_apt` — working out a demand never fails so;
* `Impact.Does.justified`, `Game.justifies_reactionsToImpact` — what impacts and effects do has a reason;
* `Impact.resolve_explained` — resolutions, and what they leave open.
-/

namespace Terraforming

open Operation (Balanced Aside)

/-! ## Working demands out -/

namespace Player

theorem tagCount_apt (q : Player) (tag : Option CardTag) : Apt (q.tagCount tag) :=
  .ite (.error rfl) (.ok _)

theorem groups_apt (n per : Int) : Apt (groups n per) := .ite (.error rfl) (.ok _)

theorem spendMetals_apt (q : Player) (metals : List (Resource × Int)) (spent : Pool) (remaining : Int) :
    Apt (q.spendMetals metals spent remaining) := by
  induction metals generalizing spent remaining with
  | nil => exact .ok _
  | cons metal metals ih => exact .ite (.error rfl) (.ite (ih _ _) (ih _ _))

theorem paymentFor_apt (q : Player) (cost : Cost) : Apt (q.paymentFor cost) := by
  unfold paymentFor
  split
  · exact .ok _
  · refine (q.spendMetals_apt _ _ _).bind fun spent => .ite (.ok _) ?_
    split <;> exact .ok _

theorem fulfils_apt (q : Player) (b : Board) (r : Requirement) : Apt (q.fulfils b r) := by
  unfold fulfils
  split
  case h_7 => exact (q.tagCount_apt _).map
  all_goals exact .ok _

theorem unmetRequirements_apt (q : Player) (b : Board) (c : Card) : Apt (q.unmetRequirements b c) := by
  have checks : Apt (q.unfulfilled b c) :=
    .filterM (fun r => (q.fulfils_apt b r).bind fun met => .ok _) c.requirements
  have affords : Apt (q.canAfford (q.effectiveCost c)) := (q.paymentFor_apt _).bind fun payment => .ok _
  exact checks.bind fun unfulfilled => affords.bind fun affordable => .ok _

end Player

namespace Impact

variable {i : Impact} {g h : Game} {actor : PlayerId} {source : Option Int}

theorem need_apt {α : Type} (x : Option α) : Apt (need x) := by
  cases x with
  | some a => exact .ok a
  | none => exact .error rfl

theorem tagGroups_apt (i : Impact) (qs : List Player) : Apt (i.tagGroups qs) :=
  Apt.bind (.mapM (fun q => q.tagCount_apt i.tag) qs) fun _ => Player.groups_apt _ _

theorem demandSpecialTile_apt (i : Impact) (g : Game) (actor : PlayerId) :
    Apt (i.demandSpecialTile g actor) := by
  unfold demandSpecialTile
  split
  · exact .error rfl
  · exact .ok _

theorem demandRemoval_apt (i : Impact) (g : Game) (actor : PlayerId) : Apt (i.demandRemoval g actor) := by
  unfold demandRemoval
  split
  · exact (need_apt _).bind fun kind => .ok _
  · exact .ok _

theorem demandProduction_apt (i : Impact) (g : Game) (actor : PlayerId) (delta : Int) :
    Apt (i.demandProduction g actor delta) := by
  refine .ite (.ok _) (.ite ((g.player_apt actor).bind fun q => .ite ?_ (.ok _)) (.ok _))
  exact (need_apt _).bind fun r => .ok _

/-- What an impact demands is worked out without a look at what cards hold. -/
theorem demand_apt (i : Impact) (g : Game) (actor : PlayerId) (source : Option Int) :
    Apt (i.demand g actor source) := by
  unfold demand
  cases i.type with
  | gainTerraformRatingPerOwnTag =>
    refine (g.player_apt actor).bind fun q => (i.tagGroups_apt _).bind fun n => .ite (.ok _) (.ok _)
  | placeSpecialTile => exact i.demandSpecialTile_apt g actor
  | removeResourceFromAnyCard => exact i.demandRemoval_apt g actor
  | addResourceToAnotherCard | addResourceToAnyCard | copyProductionOfCard =>
    exact (g.player_apt actor).map
  | gainResource =>
    refine (g.player_apt actor).bind fun q => .ite ((need_apt _).bind fun r => .ok _) ?_
    exact .ite (.ok _) (.ok _)
  | destroyOwnPlants => exact (g.player_apt actor).bind fun q => .ite (.ok _) (.ok _)
  | gainProduction | gainProductionPerCity | gainProductionPerCityOnMars =>
    exact i.demandProduction_apt g actor _
  | gainProductionPerOwnTag =>
    exact (g.player_apt actor).bind fun q => (i.tagGroups_apt _).bind fun n =>
      i.demandProduction_apt g actor _
  | gainProductionPerOpponentTag | gainProductionPerAnyTag =>
    exact (i.tagGroups_apt _).bind fun n => i.demandProduction_apt g actor _
  | _ => exact .ok _

/-! ## Impacts with a reason -/

/-- When the impact is about the card that it comes from, that card refers to the kind, or the board prints
the impact. -/
def Rooted (g : Game) (actor : PlayerId) (source : Option Int) (i : Impact) : Prop :=
  i.type = .addResourceToSameCard →
    g.board.Prints i ∨ ∀ s, source = some s → g.Refers actor s i.cardResource

theorem Rooted.mono {os : List Operation} (rooted : i.Rooted g actor source)
    (leads : g.executeAll os = .accepted h) : i.Rooted h actor source := by
  intro type
  rcases rooted type with ⟨l, space, hs, printed⟩ | refers
  · exact .inl ⟨l, space, (Game.executeAll_spaces leads).symm ▸ hs, printed⟩
  · exact .inr fun s hs => (refers s hs).mono (Game.keeps_executeAll leads)

/-- Types of impacts that may have to do with resources on cards. -/
theorem type_of_emits {t : ImpactType} (h : .changeCardResource ∈ t.emits) :
    t = .addResourceToSameCard ∨ (t = .addResourceToAnotherCard ∨ t = .addResourceToAnyCard) ∨
      t = .removeResourceFromAnyCard := by
  revert h
  cases t <;> decide

end Impact

namespace Operation

theorem eq_of_changeCardResource {p p' : PlayerId} {i i' n n' : Int} {k : Option CardResource}
    {kind : CardResource}
    (h : (changeCardResource p i k n).command? = .ok (.changeCardResource p' i' kind n')) :
    p' = p ∧ i' = i ∧ k = some kind := by
  cases k with
  | none => cases h
  | some k =>
    cases h
    exact ⟨rfl, rfl, rfl⟩

end Operation

/-! ## What impacts do -/

namespace Impact

variable {i : Impact} {g h : Game} {actor : PlayerId} {source : Option Int} {answer : List Choice}
  {ops : List Operation} {more : List Impact}

/-- A card that is listed because it holds the kind does. -/
theorem warrants_of_holders {q : Player} {d d' : PlayedCard} {except : Option Int} {kind : CardResource}
    (printed : q.Printed) (hd : d ∈ i.holders q except) (hd' : q.played? d.instanceId = some d')
    (hk : i.cardResource = some kind) : q.Warrants g.board d' kind := by
  obtain ⟨mem, fits⟩ := List.mem_filter.1 hd
  rw [Bool.and_eq_true, decide_eq_true_eq, hk] at fits
  obtain rfl : d = d' := Option.some.inj ((Player.played?_of_mem printed.distinct mem).symm.trans hd')
  exact .holder fits.1

/-- On a card that is listed because something can be taken off it there is some. -/
theorem warrants_of_removable {p p' : PlayerId} {q : Player} {n : Int} {d : PlayedCard}
    {kind : CardResource} (listed : (p', n) ∈ i.removable actor (p, q)) (hd : q.played? n = some d)
    (hk : i.cardResource = some kind) : q.Warrants g.board d kind := by
  obtain ⟨d', hd', ⟨⟩⟩ := List.mem_map.1 listed
  obtain ⟨-, there⟩ := List.mem_filter.1 hd'
  rw [Bool.and_eq_true, decide_eq_true_eq, hk, ← (Player.mem_of_played? hd).2] at there
  exact .held there.1

/-- **An impact** has a reason for what it does to the resources on a card, if it has one for being where
it is; and so have the bonuses that it brings. -/
theorem Does.justified (does : i.Does actor source h answer ops more) (amid : g.Amid h)
    (rooted : i.Rooted g actor source) : h.Justifies g.board ops := by
  obtain ⟨d, hd, yields⟩ := does
  by_cases emits : OperationType.changeCardResource ∈ i.type.emits
  case neg =>
    refine Game.justifies_of_types fun o ho type => emits ?_
    rw [← type]
    exact demand_emits hd ops yields.leads o ho
  have types := type_of_emits emits
  cases demand_makes hd with
  | skip | refuse | choose => cases yields
  | sameCard type here =>
    cases yields
    refine Game.justifies_singleton fun p n kind m q d read hq hd => ?_
    obtain ⟨rfl, rfl, hk⟩ := Operation.eq_of_changeCardResource read
    rcases rooted type with printed | refers
    · exact .bonus ⟨i, printed, type, hk⟩
    · obtain ⟨q', d', hq', hd', mem⟩ := (refers _ here).mono amid.keeps
      obtain rfl : q' = q := Option.some.inj (hq'.symm.trans hq)
      obtain rfl : d' = d := Option.some.inj (hd'.symm.trans hd)
      exact .own (hk ▸ mem)
  | @ownCard q except type hq =>
    cases yields with
    | pick named legal ok =>
      cases ok
      obtain ⟨d, listed, rfl⟩ := List.mem_map.1 legal
      refine Game.justifies_singleton fun p n kind m q' d' read hq' hd' => ?_
      obtain ⟨rfl, rfl, hk⟩ := Operation.eq_of_changeCardResource read
      obtain rfl : q = q' := Option.some.inj (hq.symm.trans hq')
      exact warrants_of_holders (amid.printed _ _ hq) listed hd' hk
  | removal type =>
    cases yields with
    | pick named legal ok =>
      cases ok
      refine Game.justifies_singleton fun p n kind m q' d' read hq' hd' => ?_
      obtain ⟨rfl, rfl, hk⟩ := Operation.eq_of_changeCardResource read
      obtain ⟨⟨p, q⟩, he, listed⟩ := List.mem_flatMap.1 legal
      obtain ⟨d, -, named⟩ := List.mem_map.1 listed
      obtain rfl : p = _ := congrArg Prod.fst named
      obtain rfl : q = q' := Option.some.inj ((Table.get?_eq_some_iff.2 he).symm.trans hq')
      exact warrants_of_removable listed hd' hk
  | gainPerCity type => obtain type | type := type <;> rw [type] at types <;> simp at types
  | production type =>
    rw [(emits_of_productive type).1] at emits
    cases List.mem_singleton.1 emits
  | _ type =>
    rw [type] at types
    simp at types

theorem Does.rooted (does : i.Does actor source h answer ops more) (amid : g.Amid h) :
    ∀ j ∈ more, j.Rooted g actor source := by
  intro j hj type
  have origin : g.Origin (fun _ => False) j ∨ j.type = .gainResource := does.origin amid.spaces j hj
  rcases origin with (none | printed) | gain
  · cases none
  · exact .inl printed
  · rw [gain] at type
    cases type

end Impact

/-- A gain is about resources on the card that the effect comes from, or not about resources on cards. -/
theorem ActiveEffect.gain_cases {owner : PlayerId} {a : ActiveEffect} {o : Operation}
    (h : a.gain owner = some o) :
    a.effect.type.refersToCard = true ∧
        o = .changeCardResource owner a.source a.effect.cardResource a.effect.count ∨
      o.type ≠ .changeCardResource := by
  simp only [gain] at h
  split at h
  case h_1 type | h_2 type =>
    cases h
    exact .inl ⟨by rw [type]; rfl, rfl⟩
  case h_7 => cases h
  all_goals
    cases h
    exact .inr (by rintro ⟨⟩)

/-- An effect that puts resources on its card refers to them there. -/
theorem Game.justifies_reactionsToImpact {g : Game} (b : Board) (printed : g.Printed)
    (actor : PlayerId) (i : Impact) : g.Justifies b (g.reactionsToImpact actor i) := by
  refine justifies_of_refers fun o ho p n kind m read => ?_
  obtain ⟨p', q, a, hq, ha, gain⟩ := mem_reactionsToImpact ho
  rcases a.gain_cases gain with ⟨type, rfl⟩ | other
  · obtain ⟨rfl, rfl, hk⟩ := Operation.eq_of_changeCardResource read
    obtain ⟨effects, distinct, -⟩ := printed p q hq
    obtain ⟨d, hd, ha⟩ := List.mem_flatMap.1 (effects ▸ ha)
    obtain ⟨e, he, rfl⟩ := List.mem_map.1 ha
    refine ⟨q, d, hq, Player.played?_of_mem distinct hd, hk ▸ d.card.mem_selfKinds_of_effect he type⟩
  · exact absurd (List.mem_singleton.1 (Operation.type_of_command? read)) other

/-! ## Resolutions -/

namespace Impact

variable {i : Impact} {g h : Game} {actor : PlayerId} {source : Option Int} {cs : List Choice}
  {queue : List Impact} {p : Progress}

/-- From a game in which effects are as printed, impacts that have reasons go on or fail in a way that is
explained. -/
theorem tolerates_rooted (g : Game) (actor : PlayerId) (source : Option Int) :
    Tolerates actor source g.Amid (·.Rooted g actor source) g.Explains where
  demand {h i f} _ _ failed := Game.explains_of_apt ((i.demand_apt h actor source).fails failed)
  impact {h i answer ops more} amid rooted does := by
    have aside : Aside ops := by
      obtain ⟨d, hd, yields⟩ := does
      exact aside_of_leads hd yields.leads
    exact ⟨Game.executeAll_explained amid aside.balanced (does.justified amid rooted), does.rooted amid⟩
  reactions {h} i amid :=
    Game.executeAll_explained amid (h.aside_reactionsToImpact actor i).balanced
      (Game.justifies_reactionsToImpact g.board amid.printed actor i)
  undecided t := Game.explains_of_apt rfl

/-- What is left open comes from the same card. -/
theorem source_of_waiting {ops : List Operation} {remaining : List Impact} {pending : Pending}
    {s : Option Int} (h : resolve actor source cs queue p = .ok (.waiting ops remaining pending s g)) :
    s = source := by
  fun_induction resolve actor source cs queue p with
  | case3 =>
    cases h
    rfl
  | case5 cs p i is d hd hm ih => exact ih h
  | case7 cs p i is d hd ops hm p₂ he ih => exact ih h
  | case10 cs p i is d hd ops bonuses rest used hm rest' p₂ he p₃ hc ih => exact ih h
  | case11 cs p i is d hd j mem rest hm ih => exact ih h
  | _ => cases h

end Impact

/-- What is left of the attempt has reasons for being there. -/
def OpenAttempt.Rooted (o : OpenAttempt) (g : Game) : Prop :=
  ∀ i ∈ o.remaining, i.Throughout (·.Rooted g o.player o.source)

theorem OpenAttempt.Rooted.mono {o : OpenAttempt} {g h : Game} {os : List Operation}
    (rooted : o.Rooted g) (leads : g.executeAll os = .accepted h) : o.Rooted h :=
  fun i hi j hj => (rooted i hi j hj).mono leads

/-- What an attempt of `p` leaves open has reasons in the game that it leads to. -/
def Attempt.Rooted (p : PlayerId) (a : Attempt) : Prop :=
  ∀ g, a.game? = some g → ∀ o ∈ a.leftOpen p, o.Rooted g

/-- **A resolution** of impacts with reasons fails in a way that is explained, and what it leaves open has
reasons. -/
theorem Impact.resolve_explained {actor : PlayerId} {source : Option Int} {queue : List Impact}
    {p : Progress} (printed : p.game.Printed)
    (rooted : ∀ i ∈ queue, i.Throughout (·.Rooted p.game actor source)) (cs : List Choice) :
    Gives (resolve actor source cs queue p) (·.Rooted actor) p.game.Explains := by
  have resolved : Gives (resolve actor source cs queue p)
      (·.Keeps p.game.Amid (·.Rooted p.game actor source)) p.game.Explains :=
    (tolerates_rooted p.game actor source).resolve (.refl printed) rooted
  cases done : resolve actor source cs queue p with
  | error f => exact resolved.fails done
  | ok a =>
    have keeps := resolved.holds done
    refine Gives.ok fun g hg o ho => ?_
    cases a with
    | unplayable | complete => cases ho
    | waiting ops remaining pending s g' =>
      cases hg
      obtain rfl := List.mem_singleton.1 ho
      obtain rfl := source_of_waiting done
      obtain ⟨⟨⟨os, leads⟩, -⟩, remaining⟩ := keeps
      exact fun i hi j hj => (remaining i hi j hj).mono leads

/-- So does an attempt that is taken up again. -/
theorem OpenAttempt.Rooted.resume_explained {o : OpenAttempt} {g : Game} (rooted : o.Rooted g)
    (printed : g.Printed) (cs : List Choice) : Gives (o.resume g cs) (·.Rooted o.player) g.Explains :=
  Impact.resolve_explained (p := ⟨g, []⟩) printed rooted cs

end Terraforming
