import Terraforming.Proofs.Turn.Queues
import Terraforming.Proofs.Turn.Replay
import Terraforming.Proofs.Turn.Transport

/-!
# Resuming a turn

A turn that stops for want of a choice can be taken up in two ways: from the start with more
choices, or from where it stopped with the further ones alone.  Both come to the same.

* `Impact.resolve_after` — what was emitted before a resolution shows up in front of its operations
  and nowhere else;
* `Impact.resolve_append` — further choices matter only once the first ones have run out, and then
  they are used as if the resolution started from there;
* `Resumes` — both facts about a whole move, which every kind of turn action has
  (`Game.takeTurn_resumes`);
* `Game.takeTurn_append` — resuming equals replaying, and which answers are illegal.
-/

namespace Terraforming

/-! ## Operations that went before -/

/-- The progress when other operations went before. -/
def Progress.after (ops : List Operation) (p : Progress) : Progress := ⟨p.game, ops ++ p.operations⟩

/-- The attempt when other operations went before. -/
def Attempt.after (ops : List Operation) : Attempt → Attempt
  | unplayable r => unplayable r
  | waiting os remaining pending source g => waiting (ops ++ os) remaining pending source g
  | complete os g => complete (ops ++ os) g

/-- No resolution sees what was emitted before it. -/
theorem unseen_after (xs : List Operation) : Unseen id (xs ++ ·) where
  board _ := rfl
  demand _ _ _ _ := rfl
  reactions _ _ _ := rfl
  execute g o _ := by
    rw [id]
    cases (g.execute o).toExcept <;> rfl
  note os ops _ := (List.append_assoc xs os ops).symm

theorem Impact.resolve_after {actor : PlayerId} {source : Option Int} {cs : List Choice}
    {queue : List Impact} {p : Progress} (xs : List Operation) :
    resolve actor source cs queue (p.after xs) =
      (resolve actor source cs queue p).map (·.after xs) := by
  have same : Attempt.carry id (xs ++ ·) = Attempt.after xs := funext fun a => by cases a <;> rfl
  have carried : resolve actor source cs queue (p.carry id (xs ++ ·)) =
      (resolve actor source cs queue p).map (·.carry id (xs ++ ·)) := (unseen_after xs).resolve
  rw [same] at carried
  exact carried

/-! ## Choices that come after -/

/-- A decision is due, and no choice is left. -/
def Met.waits {i : Impact} {cs : List Choice} : Met i cs → Bool
  | waiting _ => true
  | _ => false

/-- How far an impact gets when further choices follow. -/
def Met.append {i : Impact} {cs : List Choice} (ds : List Choice) : Met i cs → Met i (cs ++ ds)
  | waiting options => waiting options
  | skipped => skipped
  | refused r => refused r
  | performed ops => performed ops
  | answered ops bonuses rest used =>
    answered ops bonuses (rest ++ ds) (by
      rw [List.length_append, List.length_append]
      exact Nat.add_lt_add_right used _)
  | replaced j mem rest => replaced j mem (rest ++ ds)

/-- A demand that does not wait is met in the same way when further choices follow. -/
theorem Demand.meet_append {i : Impact} {b : Board} {d : Demand i} {cs : List Choice} {m : Met i cs}
    (ds : List Choice) (hm : d.meet b cs = m) (h : m.waits = false) :
    d.meet b (cs ++ ds) = m.append ds := by
  subst hm
  cases cs with
  | nil =>
    cases d with
    | skip | refuse _ | perform _ => rfl
    | place _ _ | aim _ _ | pick _ _ | choose => cases h
  | cons c cs =>
    show d.meet b (c :: (cs ++ ds)) = (d.meet b (c :: cs)).append ds
    cases d with
    | skip | refuse _ | perform _ => rfl
    | place ls ops =>
      simp only [meet]
      cases c.location.filter (· ∈ ls) <;> rfl
    | aim ps ops =>
      simp only [meet]
      cases c.player.filter (· ∈ ps) <;> rfl
    | pick ts ops =>
      simp only [meet]
      cases c.card?.filter (· ∈ ts) with
      | none => rfl
      | some t =>
        simp only
        cases ops t <;> rfl
    | choose =>
      simp only [meet]
      cases c.option.filter (0 ≤ ·) with
      | none => rfl
      | some n => by_cases hn : n.toNat < i.options.length <;> simp [hn, Met.append]

namespace Impact

variable {actor : PlayerId} {source : Option Int} {cs rest : List Choice}
  {queue bonuses : List Impact} {p p' : Progress} {a : Attempt}

/-- Bonuses that are settled leave further choices over. -/
theorem settleBonuses_append (ds : List Choice)
    (h : settleBonuses actor source cs bonuses p = .ok (rest, p')) :
    settleBonuses actor source (cs ++ ds) bonuses p = .ok (rest ++ ds, p') := by
  fun_induction settleBonuses actor source cs bonuses p with
  | case1 cs p =>
    cases h
    rw [settleBonuses]
  | case3 cs i is p d hd hm ih =>
    rw [settleBonuses]
    simp only [hd, Demand.meet_append ds hm rfl, Met.append]
    exact ih h
  | case5 cs i is p d hd ops hm p₁ he ih =>
    rw [settleBonuses]
    simp only [hd, Demand.meet_append ds hm rfl, Met.append, he]
    exact ih h
  | case7 cs i is p d hd ops more rest' used hm p₁ he ih =>
    rw [settleBonuses]
    simp only [hd, Demand.meet_append ds hm rfl, Met.append, he]
    exact ih h
  | _ => cases h

end Impact

/-- What becomes of an attempt with further choices: if it waits for one, it goes on from where it
stopped. -/
def Attempt.resume (p : PlayerId) (ds : List Choice) : Attempt → Except Fault Attempt
  | unplayable r => .ok (.unplayable r)
  | waiting ops remaining _ source g => (g.resolve p remaining ds source).map (·.after ops)
  | complete ops g => .ok (.complete ops g)

namespace Impact

variable {actor : PlayerId} {source : Option Int} {cs rest : List Choice}
  {queue bonuses : List Impact} {p p' : Progress} {a : Attempt}

theorem resolve_from_start (ops : List Operation) (g : Game) (ds : List Choice) :
    (g.resolve actor queue ds source).map (·.after ops) =
      resolve actor source ds queue ⟨g, ops⟩ := by
  rw [Game.resolve, ← resolve_after]
  simp only [Progress.after, List.append_nil]

theorem resolve_append (ds : List Choice) (h : resolve actor source cs queue p = .ok a) :
    resolve actor source (cs ++ ds) queue p = a.resume actor ds := by
  fun_induction resolve actor source cs queue p with
  | case1 cs p =>
    cases h
    rw [resolve]
    rfl
  | case3 cs p i is d hd options hm =>
    obtain rfl : cs = [] := Demand.no_choice_of_waiting hm
    cases h
    exact (resolve_from_start p.operations p.game ds).symm
  | case4 cs p i is d hd r hm =>
    cases h
    rw [resolve]
    simp only [hd, Demand.meet_append ds hm rfl, Met.append]
    rfl
  | case5 cs p i is d hd hm ih =>
    rw [resolve]
    simp only [hd, Demand.meet_append ds hm rfl, Met.append]
    exact ih h
  | case7 cs p i is d hd ops hm p₁ he ih =>
    rw [resolve]
    simp only [hd, Demand.meet_append ds hm rfl, Met.append, he]
    exact ih h
  | case10 cs p i is d hd ops bonuses rest used hm rest' p₂ he p₃ hc ih =>
    obtain ⟨p₁, ho, hb⟩ := bind_eq_ok.1 he
    rw [resolve]
    simp only [hd, Demand.meet_append ds hm rfl, Met.append, ho, ok_bind,
      settleBonuses_append ds hb, hc]
    exact ih h
  | case11 cs p i is d hd j mem rest hm ih =>
    rw [resolve]
    simp only [hd, Demand.meet_append ds hm rfl, Met.append]
    exact ih h
  | _ => cases h

end Impact

/-! ## Refusals that blame an answer -/

/-- Whether a refusal says that an answer is not legal. -/
def Refusal.blamesAnswer : Refusal → Bool
  | illegalAnswer _ _ => true
  | _ => false

/-- The demand blames no answer of itself. -/
def Demand.Fair {i : Impact} : Demand i → Prop
  | refuse r => r.blamesAnswer = false
  | pick _ ops => ∀ t r, ops t = .error r → r.blamesAnswer = false
  | _ => True

namespace Impact

variable {i : Impact} {g : Game} {actor : PlayerId} {source : Option Int} {d : Demand i}

theorem placeOn_fair (rs : List Restriction) (ops : Location → List Operation) :
    (i.placeOn g actor rs ops).Fair := by
  unfold placeOn
  split
  · rfl
  · trivial

theorem copyOps_fair {q : Player} {c : Card} {r : Refusal} (h : copyOps q actor c = .error r) :
    r.blamesAnswer = false := by
  unfold copyOps at h
  split at h
  · cases h
    rfl
  · cases h

theorem demand_fair (h : i.demand g actor source = .ok d) : d.Fair := by
  cases demand_makes h with
  | @refuse r _ lawful =>
    cases r with
    | illegalAnswer c t => exact absurd rfl (lawful c t)
    | _ => rfl
  | ocean | greenery | city | specialTile => exact placeOn_fair _ _
  | ownCard | removal => exact fun t r hr => nomatch hr
  | copy =>
    intro t r hr
    simp only at hr
    split at hr
    · exact copyOps_fair hr
    · cases hr
  | _ => trivial

/-- A resolution without choices blames no answer. -/
theorem resolve_nil_fair {queue : List Impact} {p : Progress} {r : Refusal}
    (h : resolve actor source [] queue p = .ok (.unplayable r)) : r.blamesAnswer = false := by
  generalize hcs : ([] : List Choice) = cs at h
  fun_induction resolve actor source cs queue p with
  | case4 cs p i is d hd r' hm =>
    subst hcs
    cases h
    have fair := demand_fair hd
    cases d with
    | refuse r =>
      cases hm
      exact fair
    | _ => cases hm
  | case5 cs p i is d hd hm ih => exact ih hcs h
  | case7 cs p i is d hd ops hm p₁ he ih => exact ih hcs h
  | case10 cs p i is d hd ops bonuses rest used hm rest' p₂ he p₃ hc ih =>
    subst hcs
    exact absurd used (Nat.not_lt_zero _)
  | case11 cs p i is d hd j mem rest hm ih =>
    subst hcs
    cases d <;> cases hm
  | _ => cases h

theorem settleBonuses_nil {bonuses : List Impact} {p p' : Progress} {rest : List Choice}
    (h : settleBonuses actor source [] bonuses p = .ok (rest, p')) : rest = [] := by
  generalize hcs : ([] : List Choice) = cs at h
  fun_induction settleBonuses actor source cs bonuses p with
  | case1 cs p =>
    subst hcs
    cases h
    rfl
  | case3 cs i is p d hd hm ih => exact ih hcs h
  | case5 cs i is p d hd ops hm p₁ he ih => exact ih hcs h
  | case7 cs i is p d hd ops more rest' used hm p₁ he ih =>
    subst hcs
    exact absurd used (Nat.not_lt_zero _)
  | _ => cases h

end Impact

/-! ## One answer -/

/-- Whether the field of a choice that the decision reads is one of its options. -/
def Options.accepts (c : Choice) : Options → Bool
  | locations ls => c.location.any ls.contains
  | players ps => c.player.any ps.contains
  | cards ts => c.card?.any ts.contains
  | indexes n => c.option.any fun k => decide (0 ≤ k ∧ k < (n : Int))

section Named

variable {α : Type} [BEq α] [LawfulBEq α] {o : Option α} {as : List α}

/-- What is named and listed is found. -/
theorem filter_of_contains (h : o.any as.contains = true) :
    ∃ a ∈ as, o.filter (· ∈ as) = some a := by
  obtain ⟨a, rfl, listed⟩ := (Option.any_eq_true _ _).1 h
  have mem : a ∈ as := List.contains_iff_mem.1 listed
  exact ⟨a, mem, filter_mem_iff.2 ⟨rfl, mem⟩⟩

theorem filter_of_not_contains (h : o.any as.contains = false) : o.filter (· ∈ as) = none := by
  cases o with
  | none => rfl
  | some a => exact if_neg (by simpa using h)

end Named

/-- So is a number that is low enough. -/
theorem filter_of_within {o : Option Int} {n : Nat}
    (h : (o.any fun k => decide (0 ≤ k ∧ k < (n : Int))) = true) :
    ∃ k < n, o.filter (0 ≤ ·) = some (k : Int) := by
  obtain ⟨k, rfl, within⟩ := (Option.any_eq_true _ _).1 h
  obtain ⟨low, high⟩ := of_decide_eq_true within
  refine ⟨k.toNat, by omega, ?_⟩
  rw [Int.toNat_of_nonneg low]
  exact Option.filter_eq_some_iff.2 ⟨rfl, decide_eq_true low⟩

namespace Demand

variable {i : Impact} {b : Board} {d : Demand i} {options : Options} {c : Choice}

theorem meet_illegal (hw : d.meet b [] = .waiting options) (hc : options.accepts c = false) :
    d.meet b [c] = .refused (.illegalAnswer c i.type) := by
  cases d with
  | skip | refuse _ | perform _ => cases hw
  | place | aim | pick =>
    cases hw
    simp only [meet, filter_of_not_contains hc]
  | choose =>
    cases hw
    simp only [meet]
    cases hk : c.option.filter (0 ≤ ·) with
    | none => rfl
    | some k =>
      obtain ⟨hk, low⟩ := Option.filter_eq_some_iff.1 hk
      have range : ¬(0 ≤ k ∧ k < (i.options.length : Int)) := by
        simpa [Options.accepts, hk] using hc
      have high : ¬k.toNat < i.options.length := by
        have := of_decide_eq_true low
        omega
      simp only [dif_neg high]

/-- A legal answer carries the impact out, or puts one of its options in its place, or is refused
for what it leads to. -/
theorem meet_legal (fair : d.Fair) (hw : d.meet b [] = .waiting options)
    (hc : options.accepts c = true) :
    (∃ r, d.meet b [c] = .refused r ∧ r.blamesAnswer = false) ∨
      (∃ ops bonuses used, d.meet b [c] = .answered ops bonuses [] used) ∨
      ∃ j mem, d.meet b [c] = .replaced j mem [] := by
  cases d with
  | skip | refuse _ | perform _ => cases hw
  | place ls ops =>
    cases hw
    obtain ⟨l, -, hl⟩ := filter_of_contains hc
    simp only [meet, hl]
    exact .inr (.inl ⟨_, _, Nat.zero_lt_one, rfl⟩)
  | aim ps ops =>
    cases hw
    obtain ⟨p, -, hp⟩ := filter_of_contains hc
    simp only [meet, hp]
    exact .inr (.inl ⟨_, _, Nat.zero_lt_one, rfl⟩)
  | pick ts ops =>
    cases hw
    obtain ⟨t, -, ht⟩ := filter_of_contains hc
    simp only [meet, ht]
    cases ho : ops t with
    | error r => exact .inl ⟨r, rfl, fair t r ho⟩
    | ok ops => exact .inr (.inl ⟨_, _, Nat.zero_lt_one, rfl⟩)
  | choose =>
    cases hw
    obtain ⟨k, high, hk⟩ := filter_of_within hc
    simp only [meet, hk, Int.toNat_natCast, dif_pos high]
    exact .inr (.inr ⟨_, List.getElem_mem high, rfl⟩)

end Demand

namespace Impact

variable {i : Impact} {is : List Impact} {actor : PlayerId} {source : Option Int} {p : Progress}
  {d : Demand i} {options : Options} {c : Choice}

theorem resolve_illegal (hd : i.demand p.game actor source = .ok d)
    (hw : d.meet p.game.board [] = .waiting options) (hc : options.accepts c = false) :
    resolve actor source [c] (i :: is) p = .ok (.unplayable (.illegalAnswer c i.type)) := by
  rw [resolve]
  simp only [hd, Demand.meet_illegal hw hc]

theorem resolve_legal (hd : i.demand p.game actor source = .ok d)
    (hw : d.meet p.game.board [] = .waiting options) (hc : options.accepts c = true)
    {r : Refusal} (h : resolve actor source [c] (i :: is) p = .ok (.unplayable r)) :
    r.blamesAnswer = false := by
  rw [resolve] at h
  obtain ⟨r', hm, fair⟩ | ⟨ops, bonuses, used, hm⟩ | ⟨j, mem, hm⟩ :=
    Demand.meet_legal (demand_fair hd) hw hc
  · simp only [hd, hm] at h
    cases h
    exact fair
  · simp only [hd, hm] at h
    split at h
    · cases h
    next rest p₂ he =>
      obtain ⟨p₁, -, hb⟩ := bind_eq_ok.1 he
      obtain rfl := settleBonuses_nil hb
      split at h
      · cases h
      · exact resolve_nil_fair h
  · simp only [hd, hm] at h
    exact resolve_nil_fair h

end Impact

/-! ## Whole moves -/

/-- What an attempt that waits is waiting for: the first of the impacts that are left comes to a
decision with just the options that it lists. -/
def Attempt.Pends (p : PlayerId) : Attempt → Prop
  | waiting _ remaining pending source g =>
    ∃ is d, remaining = pending.impact :: is ∧ pending.impact.demand g p source = .ok d ∧
      d.meet g.board [] = .waiting pending.options
  | _ => True

/-- A move of `p` that can be resumed: with more choices it goes on from where it stopped, and it
stops at a decision only. -/
structure Resumes (p : PlayerId) (move : List Choice → Except Fault Attempt) : Prop where
  append : ∀ cs ds a, move cs = .ok a → move (cs ++ ds) = a.resume p ds
  pends : ∀ cs a, move cs = .ok a → a.Pends p

/-- A resolution stops at a decision only. -/
theorem Impact.resolve_pends {source : Option Int} {cs : List Choice} {queue : List Impact}
    {p : PlayerId} {start : Progress} {a : Attempt} (h : resolve p source cs queue start = .ok a) :
    a.Pends p := by
  fun_induction resolve p source cs queue start with
  | case1 cs start =>
    cases h
    trivial
  | case3 cs start i is d hd options hm =>
    obtain rfl : cs = [] := Demand.no_choice_of_waiting hm
    cases h
    exact ⟨is, d, rfl, hd, hm⟩
  | case4 cs start i is d hd r hm =>
    cases h
    trivial
  | case5 cs start i is d hd hm ih => exact ih h
  | case7 cs start i is d hd ops hm p₁ he ih => exact ih h
  | case10 cs start i is d hd ops bonuses rest used hm rest' p₂ he p₃ hc ih => exact ih h
  | case11 cs start i is d hd j mem rest hm ih => exact ih h
  | _ => cases h

/-- What comes down to a resolution can be resumed, since a resolution can. -/
theorem ComesDown.resumes {p : PlayerId} {queue : List Impact}
    {move : List Choice → Except Fault Attempt} (h : ComesDown p queue move) : Resumes p move where
  append := by
    intro cs ds a done
    cases h with
    | refused r =>
      cases done
      rfl
    | completed ops g =>
      cases done
      rfl
    | failed f => cases done
    | resolved source start => exact Impact.resolve_append ds done
  pends := by
    intro cs a done
    cases h with
    | refused r =>
      cases done
      trivial
    | completed ops g =>
      cases done
      trivial
    | failed f => cases done
    | resolved source start => exact Impact.resolve_pends done

namespace Game

variable {p : PlayerId}

theorem playCard_resumes (g : Game) (c : Card) : Resumes p fun cs => g.playCard p c cs :=
  (playCard_comesDown g c).resumes

/-- Every turn can be resumed. -/
theorem takeTurn_resumes (g : Game) (action : TurnAction) :
    Resumes p fun cs => g.takeTurn p action cs :=
  (takeTurn_comesDown g action).resumes

/-- **Resuming equals replaying.**  A turn that waits for a choice gives with more choices what
resuming it with those gives, after the operations that it had when it stopped; a turn that waits
for none gives the same again.  Of one more choice, just those that the open decision does not list
are refused as illegal. -/
theorem takeTurn_append (g : Game) (p : PlayerId) (action : TurnAction) (cs ds : List Choice) :
    (∀ ops remaining pending source g₁,
      g.takeTurn p action cs = .ok (.waiting ops remaining pending source g₁) →
        g.takeTurn p action (cs ++ ds) =
            (g₁.resolve p remaining ds source).map (·.after ops) ∧
          ∀ c : Choice,
            ((∃ d type, g.takeTurn p action (cs ++ [c]) = .ok (.unplayable (.illegalAnswer d type))) ↔
              pending.options.accepts c = false) ∧
            (pending.options.accepts c = false →
              g.takeTurn p action (cs ++ [c]) =
                .ok (.unplayable (.illegalAnswer c pending.impact.type)))) ∧
    (∀ ops g₁, g.takeTurn p action cs = .ok (.complete ops g₁) →
      g.takeTurn p action (cs ++ ds) = .ok (.complete ops g₁)) ∧
    ∀ r, g.takeTurn p action cs = .ok (.unplayable r) →
      g.takeTurn p action (cs ++ ds) = .ok (.unplayable r) := by
  have resumes : Resumes p fun cs => g.takeTurn p action cs := takeTurn_resumes g action
  refine ⟨?_, fun ops g₁ h => resumes.append cs ds _ h, fun r h => resumes.append cs ds _ h⟩
  intro ops remaining pending source g₁ h
  refine ⟨resumes.append cs ds _ h, fun c => ?_⟩
  obtain ⟨is, d, rfl, hd, hw⟩ := resumes.pends cs _ h
  have next : g.takeTurn p action (cs ++ [c]) =
      Impact.resolve p source [c] (pending.impact :: is) ⟨g₁, ops⟩ :=
    (resumes.append cs [c] _ h).trans (Impact.resolve_from_start ops g₁ [c])
  rw [next]
  have illegal : pending.options.accepts c = false →
      Impact.resolve p source [c] (pending.impact :: is) ⟨g₁, ops⟩ =
        .ok (.unplayable (.illegalAnswer c pending.impact.type)) :=
    Impact.resolve_illegal hd hw
  refine ⟨⟨?_, fun hc => ⟨c, _, illegal hc⟩⟩, illegal⟩
  rintro ⟨c', type, refused⟩
  cases hc : pending.options.accepts c with
  | false => rfl
  | true => exact nomatch Impact.resolve_legal hd hw hc refused

/-- In `solo`, an ocean waits for its place until one is named; passing waits for nothing; and
claiming a milestone without saying which is refused. -/
theorem takeTurn_append_solo :
    (∃ ops remaining pending source g₁,
      solo.takeTurn 1 (.standardProject .aquifer) [] =
          .ok (.waiting ops remaining pending source g₁) ∧
        solo.takeTurn 1 (.standardProject .aquifer) [.at_ (.onMars ⟨5, -1⟩)] =
          (g₁.resolve 1 remaining [.at_ (.onMars ⟨5, -1⟩)] source).map (·.after ops)) ∧
    solo.takeTurn 1 .pass [.ofOption 0] = .ok (.complete [] solo) ∧
    solo.takeTurn 1 { type := .claimMilestone } [.ofOption 0] =
      .ok (.unplayable (.unknownMilestone none)) := by
  refine ⟨?_, ?_, ?_⟩
  · have waits : (solo.takeTurn 1 (.standardProject .aquifer) []).toOption.map
        Attempt.statusWord = some "partially_playable" := by
      decide +kernel
    obtain ⟨a, ha, word⟩ := Option.map_eq_some_iff.1 waits
    have taken := toOption_eq_some.1 ha
    cases a with
    | unplayable r => simp [Attempt.statusWord] at word
    | complete ops g => simp [Attempt.statusWord] at word
    | waiting ops remaining pending source g₁ =>
      exact ⟨ops, remaining, pending, source, g₁, taken,
        ((takeTurn_append solo 1 _ [] [.at_ (.onMars ⟨5, -1⟩)]).1 _ _ _ _ _ taken).1⟩
  · exact (takeTurn_append solo 1 .pass [] [.ofOption 0]).2.1 [] solo rfl
  · exact (takeTurn_append solo 1 _ [] [.ofOption 0]).2.2 _ rfl

end Game

end Terraforming
