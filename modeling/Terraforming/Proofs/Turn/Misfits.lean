import Terraforming.Proofs.Card.Kinds
import Terraforming.Proofs.Turn.Accounts
import Terraforming.Proofs.Turn.Printed

/-!
# Resources on cards that cannot hold them

Putting resources on a card, or taking some away, is refused when they are not of the kind that the card
holds.  No other operation can be refused so, and nothing that is worked out on the way to an operation
(`Apt`).  An operation that is about the resources of a card has a reason: the card refers to the kind
itself, the card holds it, there are some on it, or the board puts them there (`Player.Warrants`).  The
refusal is explained by what it goes back to.

* `Game.run_misfits` — the one way to be refused so;
* `Game.Explains` — the explanation of a fault, from some earlier game on;
* `Game.executeAll_explained` — operations that have reasons.
-/

namespace Terraforming

open Operation (Balanced)

/-! ## Computations that are apt -/

/-- The fault is that a card cannot hold resources of a kind. -/
def Fault.isMisfit : Fault → Bool
  | .violation (.cannotHold _ _) => true
  | _ => false

/-- If the computation fails, it is not because a card cannot hold something. -/
def Apt {α : Type} (x : Except Fault α) : Prop := Gives x (fun _ => True) (·.isMisfit = false)

namespace Apt

variable {α β : Type} {x y : Except Fault α} {f : Fault}

theorem ok (a : α) : Apt (.ok a) := trivial

theorem error (h : f.isMisfit = false) : Apt (.error f : Except Fault α) := h

theorem bind {next : α → Except Fault β} (h : Apt x) (then_ : ∀ a, Apt (next a)) : Apt (x >>= next) :=
  Gives.bind h fun a _ => then_ a

theorem map {next : α → β} (h : Apt x) : Apt (x.map next) := Gives.map h

theorem ite {c : Prop} [Decidable c] (hx : Apt x) (hy : Apt y) : Apt (if c then x else y) :=
  Gives.ite hx hy

theorem mapM {f : α → Except Fault β} (h : ∀ a, Apt (f a)) (as : List α) : Apt (as.mapM f) := by
  cases failed : as.mapM f with
  | ok bs => exact .ok bs
  | error e =>
    obtain ⟨-, a, -, -, -, he⟩ := mapM_eq_error.1 failed
    exact (h a).fails he

theorem filterM {f : α → Except Fault Bool} (h : ∀ a, Apt (f a)) (as : List α) : Apt (as.filterM f) := by
  have all : ∀ acc, Apt (as.filterAuxM f acc) := by
    induction as with
    | nil => exact fun acc => .ok acc
    | cons a as ih =>
      intro acc
      rw [List.filterAuxM]
      exact (h a).bind fun b => ih _
  exact (all []).bind fun bs => .ok _

end Apt

/-! ## Commands -/

theorem Board.place_apt (b : Board) (l : Location) (t : Tile) : Apt (b.place l t) := by
  unfold place
  refine .ite (.error rfl) (.ite (.error ?_) (.ite (.ok _) ?_))
  · split <;> rfl
  · cases l with
    | offMars s => exact .error rfl
    | onMars h =>
      dsimp only
      unfold cover
      split
      · exact .ite (.error rfl) (.ok _)
      · exact .ok _
      · exact .ok _
      · exact .error rfl
      · exact .error rfl

namespace Game

variable {g : Game} {c : Command} {f : Fault}

theorem player_apt (g : Game) (p : PlayerId) : Apt (g.player p) := by
  unfold player
  split
  · exact .ok _
  · exact .error rfl

theorem update_apt (g : Game) (p : PlayerId) (f : Player → Player) : Apt (g.update p f) :=
  (g.player_apt p).map

theorem discardAll_apt {p : PlayerId} (cards : List Card) (q : Player) (g : Game) :
    Apt (discardAll p cards q g).toExcept := by
  induction cards generalizing q g with
  | nil => exact .ok _
  | cons c cs ih =>
    rw [discardAll]
    split
    · exact ih _ _
    · exact .error rfl

theorem draw_apt (g : Game) (p : PlayerId) (n : Int) : Apt (g.draw p n) := by
  refine (g.player_apt p).bind fun q => ?_
  simp only [throw_eq_error, error_bind, pure_eq_ok]
  exact .ite (.error rfl) (.ite (.ok _) (.ite (.ok _) (.error rfl)))

theorem purchaseCards_apt (g : Game) (p : PlayerId) (cards : List Card) :
    Apt (g.purchaseCards p cards) := by
  refine (g.player_apt p).bind fun q => Apt.bind ?_ fun bought => ?_
  · unfold Player.purchase
    refine .ite (.ok _) ?_
    split
    · exact .error rfl
    · exact .ok _
  · split
    · exact .ok _
    · exact .error rfl

theorem addEffect_apt (g : Game) (p : PlayerId) (source : Option Int) (e : Effect) :
    Apt (g.addEffect p source e) := by
  refine (g.player_apt p).bind fun q => ?_
  split
  · exact .error rfl
  · exact .ok _

theorem markCardActionUsed_apt (g : Game) (p : PlayerId) (i : Int) : Apt (g.markCardActionUsed p i) := by
  refine (g.player_apt p).bind fun q => ?_
  simp only [throw_eq_error, error_bind, pure_eq_ok]
  split
  · exact .error rfl
  · exact .ite (.error rfl) (.ok _)

theorem produce_apt (g : Game) (p : PlayerId) : Apt (g.run (.produce p)) := by
  refine (g.player_apt p).bind fun q => ?_
  unfold Player.produce
  cases Resource.all.find? fun r => q.balanceAfterProduction r < 0 with
  | some r => exact .error rfl
  | none => exact .ok _

/-- A command that is not about resources on a card is apt. -/
theorem run_apt (other : ∀ p i kind n, c ≠ .changeCardResource p i kind n) : Apt (g.run c) := by
  cases c with
  | changeCardResource p i kind n => exact absurd rfl (other p i kind n)
  | placeTile l t => exact (g.board.place_apt l t).map
  | raiseTemperature => exact .map (.ite (.error rfl) (.ok _))
  | raiseOxygen => exact .map (.ite (.error rfl) (.ok _))
  | resetCardActions | advanceGeneration => exact .ok _
  | changeResources p | changeProduction p =>
    refine (g.player_apt p).bind fun q => ?_
    simp only [throw_eq_error, error_bind, pure_eq_ok]
    exact .ite (.error rfl) (.ok _)
  | drawCards p n => exact g.draw_apt p n
  | discardCards p cards => exact (g.player_apt p).bind fun q => discardAll_apt cards q g
  | putCardIntoPlay p c i =>
    refine (g.player_apt p).bind fun q => ?_
    simp only [throw_eq_error, error_bind, pure_eq_ok]
    exact .ite (.error rfl) (.ite (.error rfl) (.ok _))
  | raiseTerraformRating p | addNextCardEffect p | consumeNextCardEffects p => exact g.update_apt p _
  | addEffect p source e => exact g.addEffect_apt p source e
  | markCardActionUsed p i => exact g.markCardActionUsed_apt p i
  | purchaseCards p cards => exact g.purchaseCards_apt p cards
  | produce p => exact g.produce_apt p
  | claimMilestone p | fundAward p =>
    refine (g.player_apt p).bind fun q => ?_
    simp only [throw_eq_error, error_bind, pure_eq_ok]
    exact .ite (.error rfl) (.ite (.error rfl) (.ite (.error rfl) (.ok _)))

/-- **A command** is refused because a card cannot hold something only if it is about resources on that
card, which holds none of the kind. -/
theorem run_misfits (h : g.run c = .error f) (misfit : f.isMisfit = true) :
    ∃ p q i d kind n, c = .changeCardResource p i kind n ∧ g.player? p = some q ∧
      q.played? i = some d ∧ d.card.supportedResource? ≠ some kind ∧
      f = .violation (.cannotHold d.card.name kind) := by
  by_cases other : ∀ p i kind n, c ≠ .changeCardResource p i kind n
  · rw [(run_apt other).fails h] at misfit
    cases misfit
  · simp only [not_forall, ne_eq, not_not] at other
    obtain ⟨p, i, kind, n, rfl⟩ := other
    simp only [run, changeCardResource, throw_eq_error, error_bind, pure_eq_ok] at h
    cases hq : g.player p with
    | error e =>
      rw [hq] at h
      cases h
      rw [(g.player_apt p).fails hq] at misfit
      cases misfit
    | ok q =>
      rw [hq, ok_bind] at h
      split at h
      · cases h
        cases misfit
      next d hd =>
        split at h
        next unsupported =>
          cases h
          exact ⟨p, q, i, d, kind, n, rfl, player_eq_ok.1 hq, hd, unsupported, rfl⟩
        next =>
          split at h
          · cases h
            cases misfit
          · cases h

end Game

/-! ## Reasons -/

/-- The board puts resources of the kind on the card that a tile comes from. -/
def Board.Lays (b : Board) (kind : CardResource) : Prop :=
  ∃ i, b.Prints i ∧ i.type = .addResourceToSameCard ∧ i.cardResource = some kind

/-- Why there can be something to do with resources of the kind on a card in play of `q`. -/
inductive Player.Warrants (b : Board) (q : Player) (d : PlayedCard) (kind : CardResource) : Prop where
  /-- The card refers to them. -/
  | own : some kind ∈ d.card.selfKinds → Warrants b q d kind
  /-- The card holds them. -/
  | holder : d.card.supportedResource? = some kind → Warrants b q d kind
  /-- There are some on the card. -/
  | held : 0 < q.held d.instanceId (some kind) → Warrants b q d kind
  /-- They are a bonus of a space. -/
  | bonus : b.Lays kind → Warrants b q d kind

theorem Player.Warrants.of_spaces {b b' : Board} {q : Player} {d : PlayedCard} {kind : CardResource}
    (h : q.Warrants b d kind) (same : b.spaces = b'.spaces) : q.Warrants b' d kind := by
  cases h with
  | own refers => exact .own refers
  | holder holds => exact .holder holds
  | held there => exact .held there
  | bonus lays =>
    obtain ⟨i, ⟨l, space, hs, printed⟩, type, kind⟩ := lays
    exact .bonus ⟨i, ⟨l, space, same ▸ hs, printed⟩, type, kind⟩

/-- There is a reason for what the operation does to the resources on a card. -/
def Game.Warrants (b : Board) (g : Game) (o : Operation) : Prop :=
  ∀ p i kind n q d, o.command? = .ok (.changeCardResource p i kind n) → g.player? p = some q →
    q.played? i = some d → q.Warrants b d kind

/-! ## Explanations -/

namespace Game

variable {g g₁ h left : Game} {p : PlayerId} {o : Operation} {os : List Operation} {f : Fault}
  {b : Board}

/-- If the fault is that a card cannot hold something, then at some point after `g` the card is in play and
does not hold that, and there is a reason to ask for it. -/
def Explains (g : Game) (f : Fault) : Prop :=
  ∀ name kind, f = .violation (.cannotHold name kind) →
    ∃ os h p q d, g.executeAll os = .accepted h ∧ h.player? p = some q ∧
      q.played? d.instanceId = some d ∧ d.card.name = name ∧
      d.card.supportedResource? ≠ some kind ∧ q.Warrants g.board d kind

theorem explains_of_apt (h : f.isMisfit = false) : g.Explains f := by
  rintro name kind rfl
  cases h

/-- What is explained later is explained earlier. -/
theorem Explains.before (h : g.executeAll os = .accepted g₁) (explains : g₁.Explains f) :
    g.Explains f := by
  intro name kind misfit
  obtain ⟨os', h', p, q, d, leads, hq, hd, named, unsupported, warrants⟩ := explains name kind misfit
  refine ⟨os ++ os', h', p, q, d, executeAll_trans h leads, hq, hd, named, unsupported, ?_⟩
  exact warrants.of_spaces (executeAll_spaces h)

/-- An operation that has a reason. -/
theorem execute_explained (leads : g.executeAll os = .accepted h) (warrants : h.Warrants g.board o)
    (refused : h.execute o = .refused f left) : g.Explains f := by
  rintro name kind rfl
  unfold execute at refused
  cases read : o.command? with
  | error v =>
    -- an operation that lacks a field is refused for that
    simp only [read, Outcome.refused.injEq, Fault.violation.injEq] at refused
    obtain ⟨rfl, -⟩ := refused
    unfold Operation.command? at read
    split at read <;> cases read
  | ok c =>
    simp only [read] at refused
    split at refused
    · cases refused
    next e failed =>
      cases refused
      obtain ⟨p, q, i, d, k, n, rfl, hq, hd, unsupported, ⟨⟩⟩ := run_misfits failed rfl
      have id := (Player.mem_of_played? hd).2
      exact ⟨os, h, p, q, d, leads, hq, id ▸ hd, rfl, unsupported, warrants p i kind n q d read hq hd⟩

/-- Each of the operations has a reason when its turn comes. -/
def Justifies (b : Board) (g : Game) (os : List Operation) : Prop :=
  ∀ pre o post h, os = pre ++ o :: post → g.executeAll pre = .accepted h → h.Warrants b o

/-- What is not about resources on cards needs no reason. -/
theorem justifies_of_types (other : ∀ o ∈ os, o.type ≠ .changeCardResource) : g.Justifies b os := by
  rintro pre o post h rfl - p i kind n q d read
  have type : o.type = .changeCardResource := List.mem_singleton.1 (Operation.type_of_command? read)
  exact absurd type (other o (by simp))

theorem justifies_singleton (warrants : g.Warrants b o) : g.Justifies b [o] := by
  intro pre o' post h split leads
  cases pre with
  | nil =>
    cases split
    cases leads
    exact warrants
  | cons o₁ pre => simp at split

/-- Card `i` of `p` refers to the kind. -/
def Refers (g : Game) (p : PlayerId) (i : Int) (kind : Option CardResource) : Prop :=
  ∃ q d, g.player? p = some q ∧ q.played? i = some d ∧ kind ∈ d.card.selfKinds

theorem Refers.mono {i : Int} {kind : Option CardResource} (refers : g.Refers p i kind)
    (kept : g.Keeps h) : h.Refers p i kind := by
  obtain ⟨q, d, hq, hd, mem⟩ := refers
  obtain ⟨q', hq', played⟩ := kept p q hq
  exact ⟨q', d, hq', Player.played?_of_prefix played hd, mem⟩

/-- Operations that cards give rise to which refer to what they are about. -/
theorem justifies_of_refers (own : ∀ o ∈ os, ∀ p i kind n,
    o.command? = .ok (.changeCardResource p i kind n) → g.Refers p i (some kind)) :
    g.Justifies b os := by
  rintro pre o post h rfl leads p i kind n q d read hq hd
  obtain ⟨q', d', hq', hd', mem⟩ := (own o (by simp) p i kind n read).mono (keeps_executeAll leads)
  obtain rfl : q' = q := Option.some.inj (hq'.symm.trans hq)
  obtain rfl : d' = d := Option.some.inj (hd'.symm.trans hd)
  exact .own mem

/-- The effects of everybody are those printed on their cards in play. -/
def Printed (g : Game) : Prop := ∀ r q, g.player? r = some q → q.Printed

/-- The game comes after `g`, and effects are as printed. -/
structure Amid (g h : Game) : Prop where
  leads : ∃ os, g.executeAll os = .accepted h
  printed : h.Printed

namespace Amid

theorem refl (printed : g.Printed) : g.Amid g := ⟨⟨[], rfl⟩, printed⟩

theorem keeps (amid : g.Amid h) : g.Keeps h := by
  obtain ⟨os, leads⟩ := amid.leads
  exact keeps_executeAll leads

theorem spaces (amid : g.Amid h) : h.board.spaces = g.board.spaces := by
  obtain ⟨os, leads⟩ := amid.leads
  exact executeAll_spaces leads

end Amid

/-- **Operations that have reasons** go on, or it is explained why not. -/
theorem executeAll_explained (amid : g.Amid h) (balanced : Balanced os)
    (justified : h.Justifies g.board os) : Gives (h.executeAll os).toExcept g.Amid g.Explains := by
  obtain ⟨before, leads⟩ := amid.leads
  cases done : h.executeAll os with
  | accepted h' =>
    exact .ok ⟨⟨before ++ os, executeAll_trans leads done⟩, fun r q hq =>
      printed_executeAll balanced done amid.printed hq⟩
  | refused f left =>
    obtain ⟨pre, o, post, h', rfl, accepted, refused⟩ := executeAll_eq_refused done
    exact .error (execute_explained (executeAll_trans leads accepted)
      (justified pre o post h' rfl accepted) refused)

end Game

end Terraforming
