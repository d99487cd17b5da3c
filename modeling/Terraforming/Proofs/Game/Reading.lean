import Terraforming.Game.Operation

/-!
# What a command was read off

A command has the type of the operation that it was read off (`Operation.type_of_command?`), tiles
and effects having more than one; and whatever else a proof asks of the operation follows from
there.

Of the operations that a turn consists of most are consequences (`Operation.isConsequence`): they pay,
they carry impacts out, or they come of effects.
-/

namespace Terraforming

/-- The types of the operations that are read as a command like this. -/
def Command.types : Command → List OperationType
  | .changeResources .. => [.changeResources]
  | .changeProduction .. => [.changeProduction]
  | .changeCardResource .. => [.changeCardResource]
  | .drawCards .. => [.drawCards]
  | .discardCards .. => [.discardCards]
  | .putCardIntoPlay .. => [.putCardIntoPlay]
  | .placeTile .. => [.placeCityTile, .placeGreenery, .placeSpecialTile, .placeOcean]
  | .raiseTemperature => [.raiseTemperature]
  | .raiseOxygen => [.raiseOxygen]
  | .raiseTerraformRating .. => [.raiseTerraformRating]
  | .addEffect .. | .addNextCardEffect .. => [.addEffect]
  | .consumeNextCardEffects .. => [.consumeNextCardEffects]
  | .markCardActionUsed .. => [.markCardActionUsed]
  | .resetCardActions => [.resetCardActions]
  | .purchaseCards .. => [.purchaseCards]
  | .produce .. => [.produce]
  | .advanceGeneration => [.advanceGeneration]
  | .claimMilestone .. => [.claimMilestone]
  | .fundAward .. => [.fundAward]

namespace Operation

variable {o : Operation} {c : Command}

theorem command?_eq_ok : o.command? = .ok c ↔ o.complete? = some c := by
  unfold command?
  cases o.complete? <;> simp

/-- A command is read off an operation of its type. -/
theorem type_of_command? (h : o.command? = .ok c) : o.type ∈ c.types := by
  have complete := command?_eq_ok.1 h
  unfold complete? at complete
  cases ht : o.type with
  | raiseTemperature | raiseOxygen | resetCardActions | advanceGeneration =>
    rw [ht] at complete
    cases complete
    exact List.mem_singleton_self _
  | drawCards | discardCards | raiseTerraformRating | consumeNextCardEffects | purchaseCards
  | produce =>
    simp only [ht, Option.bind_eq_bind, Option.bind_eq_some_iff] at complete
    obtain ⟨p, -, ⟨⟩⟩ := complete
    exact List.mem_singleton_self _
  | changeResources | changeProduction | markCardActionUsed | claimMilestone | fundAward =>
    simp only [ht, Option.bind_eq_bind, Option.bind_eq_some_iff] at complete
    obtain ⟨p, -, x, -, ⟨⟩⟩ := complete
    exact List.mem_singleton_self _
  | changeCardResource | putCardIntoPlay =>
    simp only [ht, Option.bind_eq_bind, Option.bind_eq_some_iff] at complete
    obtain ⟨p, -, x, -, y, -, ⟨⟩⟩ := complete
    exact List.mem_singleton_self _
  | placeOcean =>
    simp only [ht, Option.bind_eq_bind, Option.bind_eq_some_iff] at complete
    obtain ⟨l, -, ⟨⟩⟩ := complete
    simp [Command.types]
  | placeGreenery =>
    simp only [ht, Option.bind_eq_bind, Option.bind_eq_some_iff] at complete
    obtain ⟨l, -, p, -, ⟨⟩⟩ := complete
    simp [Command.types]
  | placeCityTile | placeSpecialTile =>
    simp only [ht, Option.bind_eq_bind, Option.bind_eq_some_iff] at complete
    obtain ⟨l, -, k, -, p, -, ⟨⟩⟩ := complete
    simp [Command.types]
  | addEffect =>
    simp only [ht, Option.bind_eq_bind, Option.bind_eq_some_iff] at complete
    obtain ⟨p, -, e, -, read⟩ := complete
    split at read
    · cases read
      exact List.mem_singleton_self _
    · cases read
      exact List.mem_singleton_self _

theorem command?_eq_discardCards {p : PlayerId} {cards : List Card} :
    o.command? = .ok (.discardCards p cards) ↔
      o.type = .discardCards ∧ o.player = some p ∧ o.cards = cards := by
  constructor
  · intro h
    have type : o.type = .discardCards := List.mem_singleton.1 (type_of_command? h)
    have complete := command?_eq_ok.1 h
    simp only [complete?, type, Option.bind_eq_bind, Option.bind_eq_some_iff] at complete
    obtain ⟨p, hp, ⟨⟩⟩ := complete
    exact ⟨type, hp, rfl⟩
  · rintro ⟨type, player, rfl⟩
    rw [command?_eq_ok, complete?, type, player]
    rfl

end Operation

/-! ## Consequences -/

/-- The types of the operations that pay, carry impacts out or come of effects. -/
def OperationType.isConsequence : OperationType → Bool
  | changeResources | changeProduction | changeCardResource | drawCards | placeCityTile
  | placeGreenery | placeSpecialTile | placeOcean | raiseTemperature | raiseOxygen
  | raiseTerraformRating | addEffect | consumeNextCardEffects => true
  | _ => false

/-- The commands that pay, carry impacts out or come of effects. -/
def Command.isConsequence : Command → Bool
  | changeResources .. | changeProduction .. | changeCardResource .. | drawCards .. | placeTile ..
  | raiseTemperature | raiseOxygen | raiseTerraformRating .. | addEffect .. | addNextCardEffect ..
  | consumeNextCardEffects .. => true
  | _ => false

namespace Operation

/-- The operation is of such a type, and names no card. -/
def isConsequence (o : Operation) : Bool :=
  o.type.isConsequence && o.card.isNone && o.cards.isEmpty

/-- All of the operations are consequences. -/
def Consequences (os : List Operation) : Prop := ∀ o ∈ os, o.isConsequence = true

theorem isConsequence_of_command? {o : Operation} {c : Command} (h : o.command? = .ok c)
    (consequence : o.isConsequence = true) : c.isConsequence = true := by
  have type := type_of_command? h
  simp only [isConsequence, Bool.and_eq_true] at consequence
  cases c with
  | changeResources | changeProduction | changeCardResource | drawCards | placeTile
  | raiseTemperature | raiseOxygen | raiseTerraformRating | addEffect | addNextCardEffect
  | consumeNextCardEffects => rfl
  | _ =>
    rw [List.mem_singleton.1 type] at consequence
    exact absurd consequence.1.1 (by decide)

namespace Consequences

variable {o : Operation} {os os' : List Operation}

theorem nil : Consequences [] := fun _ ho => nomatch ho

theorem cons (first : o.isConsequence = true) (rest : Consequences os) : Consequences (o :: os) := by
  intro o' ho'
  rcases List.mem_cons.1 ho' with rfl | ho'
  · exact first
  · exact rest o' ho'

theorem singleton (h : o.isConsequence = true) : Consequences [o] := cons h nil

theorem append (h : Consequences os) (h' : Consequences os') : Consequences (os ++ os') := by
  intro o ho
  rcases List.mem_append.1 ho with ho | ho
  · exact h o ho
  · exact h' o ho

theorem map {α : Type} {f : α → Operation} {as : List α}
    (h : ∀ a, (f a).isConsequence = true) : Consequences (as.map f) := by
  intro o ho
  obtain ⟨a, -, rfl⟩ := List.mem_map.1 ho
  exact h a

end Consequences

end Operation

end Terraforming
