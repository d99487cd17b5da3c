import Terraforming.Proofs.Game.Log
import Terraforming.Proofs.Game.Refusal

/-!
# The end of a generation

Players produce in the order of their ids.  If every one of them can, the generation ends: all
actions can be used again, and the next generation starts.  Otherwise the first who cannot stops it,
and those before have produced already.

* `Game.executeAll_produce` — players who can produce do so, one after the other;
* `Game.Ends` and `Game.Stops` — the end of a generation, and what a player who cannot produce leaves
  of it;
* `Game.advance_accepted_iff`, `Game.advance_refused_iff` — the one happens exactly when everybody can
  produce, and the other when somebody cannot.
-/

namespace Terraforming

namespace Player

/-- No balance ends below nothing in the production phase. -/
def CanProduce (q : Player) : Prop := ∀ r, 0 ≤ q.balanceAfterProduction r

/-- The player after the production phase. -/
def produced (q : Player) : Player :=
  { q with
    resources := Table.ofList (Resource.all.map fun r => (r, q.balanceAfterProduction r))
    tapped := ∅
    nextCardEffects := [] }

end Player

/-- Of a list whose members do not all have a property, the first that does not have it, and those
before. -/
theorem exists_first_not {α : Type} {P : α → Prop} {as : List α} (h : ¬∀ a ∈ as, P a) :
    ∃ before a after, as = before ++ a :: after ∧ (∀ b ∈ before, P b) ∧ ¬P a := by
  induction as with
  | nil => exact absurd (fun a ha => nomatch ha) h
  | cons a as ih =>
    by_cases ha : P a
    · have later : ¬∀ a ∈ as, P a := fun all => h (List.forall_mem_cons.2 ⟨ha, all⟩)
      obtain ⟨before, b, after, rfl, all, hb⟩ := ih later
      exact ⟨a :: before, b, after, rfl, List.forall_mem_cons.2 ⟨ha, all⟩, hb⟩
    · exact ⟨[], a, as, rfl, List.forall_mem_nil _, ha⟩

namespace Game

variable {g g' g₁ left : Game} {p : PlayerId} {q : Player} {ps : List PlayerId} {f : Fault}

/-! ## Producing one after the other -/

/-- From `g` to `g'` the players `ps` produce, and nothing else happens. -/
structure Pays (g : Game) (ps : List PlayerId) (g' : Game) : Prop where
  players : ∀ p, g'.player? p =
    if p ∈ ps then (g.player? p).map Player.produced else g.player? p
  rest : g' = { g with players := g'.players, log := g.log ++ ps.map .produce }

theorem Pays.nil (g : Game) : g.Pays [] g := by
  refine ⟨fun p => ?_, ?_⟩
  · rw [if_neg List.not_mem_nil]
  · rw [List.map_nil, List.append_nil]

/-- A player produces exactly when no balance would end below nothing. -/
theorem execute_produce_of_can (hq : g.player? p = some q) (can : q.CanProduce) :
    ∃ g', g.execute (.produce p) = .accepted g' ∧ g.Pays [p] g' := by
  have carried : g.run (.produce p) = .ok (g.withPlayer p q.produced) :=
    produce_eq_ok.2 ⟨q, hq, can, rfl⟩
  refine ⟨_, execute_eq_accepted.2 ⟨.produce p, _, rfl, carried, rfl⟩, fun p' => ?_, rfl⟩
  show (g.withPlayer p q.produced).player? p' = _
  rw [player?_withPlayer]
  by_cases here : p' = p
  · rw [if_pos here, if_pos (List.mem_singleton.2 here), here, hq]
    rfl
  · rw [if_neg here, if_neg fun mem => here (List.mem_singleton.1 mem)]

theorem execute_produce_of_cannot (hq : g.player? p = some q) (cannot : ¬q.CanProduce) :
    ∃ v, g.execute (.produce p) = .refused (.violation v) g := by
  have refused : ∃ v, g.run (.produce p) = .error (.violation v) := by
    cases h : g.run (.produce p) with
    | ok g' =>
      obtain ⟨q', hq', can, -⟩ := produce_eq_ok.1 h
      obtain rfl : q' = q := Option.some.inj (hq'.symm.trans hq)
      exact absurd can cannot
    | error f =>
      simp only [run, player_eq_ok.2 hq, ok_bind] at h
      split at h
      next => cases h
      next v hv =>
        cases h
        exact ⟨v, rfl⟩
  obtain ⟨v, hv⟩ := refused
  have read : (Operation.produce p).command? = .ok (.produce p) := rfl
  refine ⟨v, ?_⟩
  simp only [execute, read, hv]
  rfl

theorem Pays.trans {ps' : List PlayerId} (h : g.Pays ps g₁) (h' : g₁.Pays ps' g')
    (apart : ∀ p ∈ ps, p ∉ ps') : g.Pays (ps ++ ps') g' := by
  refine ⟨fun p => ?_, ?_⟩
  · rw [h'.players p, h.players p]
    by_cases first : p ∈ ps
    · rw [if_neg (apart p first), if_pos first, if_pos (List.mem_append_left _ first)]
    · by_cases then' : p ∈ ps'
      · rw [if_neg first, if_pos then', if_pos (List.mem_append_right _ then')]
      · rw [if_neg first, if_neg then', if_neg]
        exact fun mem => (List.mem_append.1 mem).elim first then'
  · have same := h'.rest
    rw [h.rest] at same
    rw [List.map_append, ← List.append_assoc]
    exact same

/-- Players who can produce do, one after the other. -/
theorem executeAll_produce (distinct : ps.Nodup)
    (can : ∀ p ∈ ps, ∃ q, g.player? p = some q ∧ q.CanProduce) :
    ∃ g', g.executeAll (ps.map .produce) = .accepted g' ∧ g.Pays ps g' := by
  induction ps generalizing g with
  | nil => exact ⟨g, rfl, .nil g⟩
  | cons p ps ih =>
    obtain ⟨new, distinct⟩ := List.nodup_cons.1 distinct
    obtain ⟨⟨q, hq, first⟩, can⟩ := List.forall_mem_cons.1 can
    obtain ⟨g₁, hg₁, pays⟩ := execute_produce_of_can hq first
    have still : ∀ p' ∈ ps, ∃ q, g₁.player? p' = some q ∧ q.CanProduce := by
      intro p' hp'
      have other : p' ∉ [p] := fun same => new (List.mem_singleton.1 same ▸ hp')
      rw [pays.players p', if_neg other]
      exact can p' hp'
    obtain ⟨g', hg', rest⟩ := ih distinct still
    refine ⟨g', executeAll_cons_eq_accepted.2 ⟨g₁, hg₁, hg'⟩, ?_⟩
    exact pays.trans rest fun p' hp' mem => new (List.mem_singleton.1 hp' ▸ mem)

/-! ## Ending a generation -/

/-- From `g` to `g'` a generation ends: everybody produces, all actions can be used again, and the
next generation starts. -/
structure Ends (g g' : Game) : Prop where
  can : ∀ p q, g.player? p = some q → q.CanProduce
  players : ∀ p, g'.player? p = (g.player? p).map Player.produced
  rest : g' = { g with
    players := g'.players, generation := g.generation + 1, log := g.log ++ g.generationEnd }

/-- The generation does not end: the players `before` produced, and the next player cannot. -/
structure Stops (g : Game) (before : List PlayerId) (left : Game) : Prop where
  can : ∀ p ∈ before, ∀ q, g.player? p = some q → q.CanProduce
  cannot : ∃ p after q, g.playerIds = before ++ p :: after ∧ g.player? p = some q ∧ ¬q.CanProduce
  pays : g.Pays before left

theorem mem_playerIds : p ∈ g.playerIds ↔ ∃ q, g.player? p = some q := by
  rw [playerIds, Table.mem_keys, Option.isSome_iff_exists]
  rfl

theorem nodup_playerIds (g : Game) : g.playerIds.Nodup := g.players.nodup_keys

/-- If everybody can produce, the generation ends. -/
theorem advance_of_can (can : ∀ p q, g.player? p = some q → q.CanProduce) :
    ∃ g', g.advance = .accepted g' ∧ g.Ends g' := by
  have each : ∀ p ∈ g.playerIds, ∃ q, g.player? p = some q ∧ q.CanProduce := by
    intro p hp
    obtain ⟨q, hq⟩ := mem_playerIds.1 hp
    exact ⟨q, hq, can p q hq⟩
  obtain ⟨g₁, hg₁, pays⟩ := executeAll_produce g.nodup_playerIds each
  let g₂ : Game := { g₁.resetCardActions with log := g₁.log ++ [.resetCardActions] }
  let g₃ : Game := { g₂ with generation := g₂.generation + 1, log := g₂.log ++ [.advanceGeneration] }
  have ends : g₁.executeAll [.resetCardActions, .advanceGeneration] = .accepted g₃ := rfl
  refine ⟨g₃, executeAll_append_eq_accepted.2 ⟨g₁, hg₁, ends⟩, can, fun p => ?_, ?_⟩
  · show (g₁.players.mapValues _).get? p = _
    have paid : g₁.player? p = (g.player? p).map Player.produced := by
      rw [pays.players p]
      split
      next => rfl
      next absent =>
        have nobody : g.player? p = none := by
          refine Option.eq_none_iff_forall_ne_some.2 fun q hq => absent (mem_playerIds.2 ⟨q, hq⟩)
        rw [nobody, Option.map_none]
    rw [Table.get?_mapValues]
    show (g₁.player? p).map _ = _
    rw [paid, Option.map_map]
    rfl
  · show ({ g₁ with
      players := g₃.players, generation := g₁.generation + 1,
      log := g₁.log ++ [.resetCardActions] ++ [.advanceGeneration] } : Game) = _
    rw [pays.rest, generationEnd]
    simp only [List.append_assoc, List.cons_append, List.nil_append]

/-- The first player who cannot produce stops it. -/
theorem advance_of_first {before after : List PlayerId} (split : g.playerIds = before ++ p :: after)
    (can : ∀ p' ∈ before, ∀ q, g.player? p' = some q → q.CanProduce) (hq : g.player? p = some q)
    (cannot : ¬q.CanProduce) :
    ∃ v left, g.advance = .refused (.violation v) left ∧ g.Pays before left := by
  have distinct := g.nodup_playerIds
  rw [split] at distinct
  obtain ⟨distinct, -, apart⟩ := List.nodup_append.1 distinct
  have each : ∀ p' ∈ before, ∃ q, g.player? p' = some q ∧ q.CanProduce := by
    intro p' hp'
    obtain ⟨q', hq'⟩ := mem_playerIds.1 (split ▸ List.mem_append_left _ hp')
    exact ⟨q', hq', can p' hp' q' hq'⟩
  obtain ⟨left, produced, pays⟩ := executeAll_produce distinct each
  have here : left.player? p = some q := by
    rw [pays.players p, if_neg fun mem => apart p mem p List.mem_cons_self rfl, hq]
  obtain ⟨v, stops⟩ := execute_produce_of_cannot here cannot
  refine ⟨v, left, ?_, pays⟩
  rw [advance, generationEnd, split, List.map_append, List.append_assoc, executeAll_append, produced]
  simp only [Outcome.andThen, List.map_cons, List.cons_append, executeAll, stops]

/-- If somebody cannot produce, somebody is the first. -/
theorem advance_of_cannot (cannot : ¬∀ p q, g.player? p = some q → q.CanProduce) :
    ∃ v before left, g.advance = .refused (.violation v) left ∧ g.Stops before left := by
  have notAll : ¬∀ p ∈ g.playerIds, ∀ q, g.player? p = some q → q.CanProduce :=
    fun all => cannot fun p q hq => all p (mem_playerIds.2 ⟨q, hq⟩) q hq
  obtain ⟨before, p, after, split, can, stops⟩ := exists_first_not notAll
  obtain ⟨q, hq, owes⟩ : ∃ q, g.player? p = some q ∧ ¬q.CanProduce := by
    by_contra none
    exact stops fun q hq => by_contra fun owes => none ⟨q, hq, owes⟩
  obtain ⟨v, left, refused, pays⟩ := advance_of_first split can hq owes
  exact ⟨v, before, left, refused, can, ⟨p, after, q, split, hq, owes⟩, pays⟩

/-- Only one game comes of it when players produce. -/
theorem Pays.unique (h : g.Pays ps g') (h' : g.Pays ps g₁) : g' = g₁ := by
  have same : g'.players = g₁.players :=
    Table.ext_get? fun p => (h.players p).trans (h'.players p).symm
  rw [h.rest, h'.rest, same]

/-- **The end of a generation is accepted** exactly when everybody can produce, and then everybody
does. -/
theorem advance_accepted_iff : g.advance = .accepted g' ↔ g.Ends g' := by
  constructor
  · intro h
    by_cases can : ∀ p q, g.player? p = some q → q.CanProduce
    · obtain ⟨g₁, hg₁, ends⟩ := advance_of_can can
      cases h.symm.trans hg₁
      exact ends
    · obtain ⟨v, before, left, refused, -⟩ := advance_of_cannot can
      cases h.symm.trans refused
  · intro ends
    obtain ⟨g₁, hg₁, ends₁⟩ := advance_of_can ends.can
    have same : g'.players = g₁.players :=
      Table.ext_get? fun p => (ends.players p).trans (ends₁.players p).symm
    rw [hg₁, ends.rest, same, ← ends₁.rest]

/-- **It is refused** exactly when somebody cannot produce, and those before the first who cannot have
produced then. -/
theorem advance_refused_iff :
    (∃ f, g.advance = .refused f left) ↔ ∃ before, g.Stops before left := by
  constructor
  · rintro ⟨f, h⟩
    by_cases can : ∀ p q, g.player? p = some q → q.CanProduce
    · obtain ⟨g₁, hg₁, -⟩ := advance_of_can can
      cases h.symm.trans hg₁
    · obtain ⟨v, before, left', refused, stops⟩ := advance_of_cannot can
      cases h.symm.trans refused
      exact ⟨before, stops⟩
  · rintro ⟨before, can, ⟨p, after, q, split, hq, owes⟩, pays⟩
    obtain ⟨v, left', refused, pays'⟩ := advance_of_first split can hq owes
    obtain rfl : left = left' := pays.unique pays'
    exact ⟨_, refused⟩

end Game

end Terraforming
