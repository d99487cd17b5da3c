import Terraforming.Proofs.Turn.Decisions
import Terraforming.Proofs.Turn.Outcomes

/-!
# Cards that are played

Playing a card takes it into play under the next id of its player, and does nothing else to the
cards (`Game.playCard_cardEnters`), whatever is decided on the way.  So cards in play keep ids of
their own, and the next id stays above them.
-/

namespace Terraforming

namespace Game

variable {g g' : Game} {p : PlayerId} {q : Player} {c : Card} {cs : List Choice} {a : Attempt}

/-- The operations that bring a card into play do just that to the cards. -/
theorem cardEnters_entryOps {payment : Pool} (hq : g.player? p = some q)
    (h : g.executeAll (entryOps p q c payment) = .accepted g') : g.CardEnters p q c g' := by
  rw [entryOps_eq] at h
  obtain ⟨g₁, paid, h⟩ := executeAll_append_eq_accepted.1 h
  obtain ⟨g₂, entered, rest⟩ := executeAll_cons_eq_accepted.1 h
  have paying := keepsCards_executeAll (consequences_paymentOps p payment) paid
  obtain ⟨q₁, hq₁, same⟩ := paying.player hq
  have next : q₁.nextInstance = q.nextInstance := congrArg Prod.snd same
  rw [← next] at entered
  exact ((cardEnters_execute hq₁ entered).before paying same).after
    (keepsCards_executeAll (consequences_followUps p q c) rest)

/-- Whatever becomes of playing a card, the card is in play then. -/
theorem playCard_cardEnters (h : g.playCard p c cs = .ok a) (hg : a.game? = some g') :
    ∃ q, g.player? p = some q ∧ q.holds c = true ∧ g.CardEnters p q c g' := by
  obtain ⟨q, hq, outcome⟩ := playCard_cases h
  cases outcome with
  | refused => cases hg
  | @resolved _ entered _ _ allowed _ he hr resolved =>
    have entry := cardEnters_entryOps hq (Progress.emit_eq_ok.1 he).1
    have reacted := Progress.keepsCards_emit (entered.game.consequences_reactionsToCard p c) hr
    exact ⟨q, hq, (playRefusal?_eq_none allowed).1,
      entry.after (reacted.trans (Impact.resolve_keepsCards resolved hg))⟩

/-- Cards in play keep ids of their own, when the next id is one. -/
theorem CardEnters.numbered (h : g.CardEnters p q c g') (hq : g.player? p = some q)
    (numbered : g.Numbered) (fresh : ∀ d ∈ q.played, d.instanceId ≠ q.nextInstance) :
    g'.Numbered := by
  intro p' q' hq'
  by_cases here : p' = p
  · subst here
    obtain ⟨q₁, hq₁, played, -⟩ := h.player
    obtain rfl : q₁ = q' := Option.some.inj (hq₁.symm.trans hq')
    rw [played, List.map_append]
    refine List.nodup_append.2 ⟨numbered p' q hq, List.nodup_singleton _, ?_⟩
    rintro i hi j hj rfl
    obtain ⟨d, hd, rfl⟩ := List.mem_map.1 hi
    exact fresh d hd (List.mem_singleton.1 hj)
  · obtain ⟨q₁, hq₁, same⟩ := h.other here hq'
    have played : q'.played = q₁.played := congrArg Prod.fst same
    exact played ▸ numbered p' q₁ hq₁

end Game

end Terraforming
