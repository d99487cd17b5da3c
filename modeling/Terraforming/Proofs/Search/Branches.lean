import Terraforming.Proofs.Data.Enumeration
import Terraforming.Proofs.Turn.Entry
import Terraforming.Proofs.Turn.Session
import Terraforming.Search.Branches

/-!
# Branching is exact

The search over decisions finds each way to carry out a move once.

* `Completes` — a chain of answers that carries a move to its end, and no answer too many;
* `Precedes` — the order in which a depth-first search comes upon chains;
* `Resumes.branches_enumerates` — the branches of a move are its complete chains, in that order;
* `Resumes.exists_completes` — whatever choices carry a move to its end, a chain of listed answers
  does the same;
* `Game.log_drop_of_mem_found` — the operations of a branch are those that it adds to the log.
-/

namespace Terraforming

variable {move : List Choice → Except Fault Attempt} {p : PlayerId} {c : Choice}
  {cs ds options : List Choice} {next : Progress}

/-! ## Chains of answers -/

/-- After the answers `cs` the move waits for a decision, and `options` are the answers to it. -/
def Asks (move : List Choice → Except Fault Attempt) (cs options : List Choice) : Prop :=
  ∃ ops remaining pending source g,
    move cs = .ok (.waiting ops remaining pending source g) ∧ pending.options.choices = options

/-- The answers `cs` carry the move to its end, and each of them is one of those that are asked for
when its turn comes: so none is too many. -/
structure Completes (move : List Choice → Except Fault Attempt) (cs : List Choice)
    (next : Progress) : Prop where
  complete : move cs = .ok (.complete next.operations next.game)
  asked : ∀ ds c es, cs = ds ++ c :: es → ∃ options, Asks move ds options ∧ c ∈ options

/-- Where the two chains part, the answer of the first is listed before that of the second. -/
def Precedes (move : List Choice → Except Fault Attempt) (cs ds : List Choice) : Prop :=
  ∃ es c d cs' ds' options, cs = es ++ c :: cs' ∧ ds = es ++ d :: ds' ∧
    Asks move es options ∧ [c, d].Sublist options

theorem Asks.unique {options' : List Choice} (h : Asks move cs options)
    (h' : Asks move cs options') : options = options' := by
  obtain ⟨ops, remaining, pending, source, g, here, rfl⟩ := h
  obtain ⟨ops', remaining', pending', source', g', here', rfl⟩ := h'
  cases here.symm.trans here'
  rfl

theorem Completes.unique {next' : Progress} (h : Completes move cs next)
    (h' : Completes move cs next') : next' = next := by
  cases next
  cases next'
  cases h.complete.symm.trans h'.complete
  rfl

theorem completes_cons :
    Completes move (c :: cs) next ↔
      (∃ options, Asks move [] options ∧ c ∈ options) ∧
        Completes (fun cs => move (c :: cs)) cs next := by
  constructor
  · intro h
    exact ⟨h.asked [] c cs rfl, h.complete, fun ds d es hcs => h.asked (c :: ds) d es (by rw [hcs]; rfl)⟩
  · rintro ⟨first, h⟩
    refine ⟨h.complete, fun ds d es hcs => ?_⟩
    rcases List.cons_eq_append_iff.1 hcs with ⟨rfl, hd⟩ | ⟨ds', rfl, hcs⟩
    · cases hd
      exact first
    · exact h.asked ds' d es (List.cons.inj hcs).2

theorem Precedes.cons (h : Precedes (fun cs => move (c :: cs)) cs ds) :
    Precedes move (c :: cs) (c :: ds) := by
  obtain ⟨es, d, d', cs', ds', options, rfl, rfl, asks, listed⟩ := h
  exact ⟨c :: es, d, d', cs', ds', options, rfl, rfl, asks, listed⟩

/-- Where a decision comes first, the chains begin with its answers, in their order. -/
theorem Asks.enumerates {found : List (List Progress)} (asks : Asks move [] options)
    (each : List.Forall₂ (fun c ys => Enumerates (Precedes fun cs => move (c :: cs))
      (Completes fun cs => move (c :: cs)) ys) options found) :
    Enumerates (Precedes move) (Completes move) found.flatten := by
  refine Enumerates.congr
    (.flatten (each.imp fun c ys h => h.map_keys fun _ _ => Precedes.cons) ?_) ?_
  · refine List.pairwise_iff_forall_sublist.2 fun {c d} listed => ?_
    rintro _ y _ y' ⟨cs, rfl, -⟩ ⟨ds, rfl, -⟩
    exact ⟨[], c, d, cs, ds, _, rfl, rfl, asks, listed⟩
  · intro cs next
    constructor
    · rintro ⟨c, hc, cs, rfl, h⟩
      exact completes_cons.2 ⟨⟨_, asks, hc⟩, h⟩
    · intro h
      cases cs with
      | nil =>
        obtain ⟨ops, rest, pending, source, g, start, -⟩ := asks
        cases start.symm.trans h.complete
      | cons c cs =>
        obtain ⟨⟨options, asks', hc⟩, h⟩ := completes_cons.1 h
        exact ⟨c, asks'.unique asks ▸ hc, cs, rfl, h⟩

/-- Chains that part where no answer is listed twice are not the same. -/
theorem Precedes.ne (h : Precedes move cs ds)
    (distinct : ∀ es options, Asks move es options → options.Nodup) : cs ≠ ds := by
  obtain ⟨es, c, d, cs', ds', options, rfl, rfl, asks, listed⟩ := h
  have apart : [c, d].Nodup := (distinct es options asks).sublist listed
  intro same
  obtain ⟨rfl, -⟩ := List.cons.inj (List.append_cancel_left same)
  exact (List.nodup_cons.1 apart).1 (List.mem_singleton_self c)

/-! ## The search -/

/-- The branches below a decision: those of each answer in turn. -/
theorem Attempt.branches_waiting {ops : List Operation} {rest : List Impact} {pending : Pending}
    {source : Option Int} {g : Game} :
    (waiting ops rest pending source g).branches p = do
      let below ← pending.options.choices.mapM fun c =>
        Impact.resolve p source [c] rest ⟨g, ops⟩ >>= Attempt.branches p
      return (Branches.join below).append ⟨[], 1⟩ := by
  rw [branches]
  congr 2
  funext c
  split
  next f h => rw [h]; rfl
  next a h => rw [h]; rfl

/-- Whatever is found from an attempt on is what its operations lead to. -/
theorem Attempt.Replays.found {g : Game} {a : Attempt} {bs : Branches} (replays : a.Replays g)
    (h : a.branches p = .ok bs) : ∀ next ∈ bs.found, next.From g := by
  induction hn : a.distance using Nat.strongRecOn generalizing a bs with
  | ind n ih =>
    cases a with
    | unplayable r =>
      rw [branches] at h
      cases h
      exact List.forall_mem_nil _
    | complete ops g' =>
      rw [branches] at h
      cases h
      exact List.forall_mem_singleton.2 (replays g' rfl)
    | waiting ops rest pending source g' =>
      rw [branches_waiting] at h
      obtain ⟨bss, below, h⟩ := bind_eq_ok.1 h
      cases h
      intro next hnext
      rw [Branches.append, Branches.join, List.append_nil] at hnext
      obtain ⟨bs, hbs, hnext⟩ := List.mem_flatMap.1 hnext
      obtain ⟨c, -, answered⟩ := exists_left_of_forall₂ (mapM_eq_ok.1 below) hbs
      obtain ⟨b, resolved, found⟩ := bind_eq_ok.1 answered
      have leads : Progress.From ⟨g', ops⟩ g := replays g' rfl
      exact ih b.distance (hn ▸ Attempt.distance_lt resolved)
        (Impact.resolve_replays leads resolved) found rfl next hnext

namespace Resumes

/-- A move that has its first answer can still be resumed. -/
theorem cons (resumes : Resumes p move) (c : Choice) : Resumes p fun cs => move (c :: cs) where
  append := fun cs ds a h => resumes.append (c :: cs) ds a h
  pends := fun cs a h => resumes.pends (c :: cs) a h

/-- The attempt at the start says what becomes of the move with any choices. -/
theorem from_start (resumes : Resumes p move) {a : Attempt} (start : move [] = .ok a)
    (cs : List Choice) : move cs = a.resume p cs :=
  resumes.append [] cs a start

theorem waiting_from_start (resumes : Resumes p move) {ops : List Operation}
    {rest : List Impact} {pending : Pending} {source : Option Int} {g : Game}
    (start : move [] = .ok (.waiting ops rest pending source g)) (cs : List Choice) :
    move cs = Impact.resolve p source cs rest ⟨g, ops⟩ :=
  (resumes.from_start start cs).trans (Impact.resolve_from_start ops g cs)

/-- **Branching is exact.**  The branches of a move that never fails are what its complete chains of
answers lead to, each listed once for every chain, in depth-first order. -/
theorem branches_enumerates (resumes : Resumes p move) (answers : ∀ cs, ∃ a, move cs = .ok a)
    {a : Attempt} (start : move [] = .ok a) :
    ∃ bs, a.branches p = .ok bs ∧ Enumerates (Precedes move) (Completes move) bs.found := by
  -- Each answer brings the attempt nearer to its end.
  induction hn : a.distance using Nat.strongRecOn generalizing move a with
  | ind n ih =>
    cases a with
    | unplayable r =>
      refine ⟨⟨[], 1⟩, by rw [Attempt.branches], .nil fun cs next h => ?_⟩
      cases (resumes.from_start start cs).symm.trans h.complete
    | complete ops g =>
      refine ⟨⟨[⟨g, ops⟩], 1⟩, by rw [Attempt.branches], .singleton (k := [])
        ⟨start, fun ds c es h => absurd h (by simp)⟩ fun cs next h => ?_⟩
      cases cs with
      | nil => rfl
      | cons c cs =>
        obtain ⟨⟨options, ⟨ops', rest, pending, source, g', waits, -⟩, -⟩, -⟩ := completes_cons.1 h
        cases start.symm.trans waits
    | waiting ops rest pending source g =>
      have asks : Asks move [] pending.options.choices := ⟨ops, rest, pending, source, g, start, rfl⟩
      have step := resumes.waiting_from_start start
      have below : ∀ c ∈ pending.options.choices, ∃ bs : Branches,
          (Impact.resolve p source [c] rest ⟨g, ops⟩ >>= Attempt.branches p) = .ok bs ∧
            Enumerates (Precedes fun cs => move (c :: cs)) (Completes fun cs => move (c :: cs))
              bs.found := by
        intro c _
        obtain ⟨next, hnext⟩ := answers [c]
        have resolved := (step [c]).symm.trans hnext
        obtain ⟨bs, hbs, enumerates⟩ := ih next.distance (hn ▸ Attempt.distance_lt resolved)
          (resumes.cons c) (fun cs => answers (c :: cs)) hnext rfl
        exact ⟨bs, bind_eq_ok.2 ⟨next, resolved, hbs⟩, enumerates⟩
      obtain ⟨bss, hbss, each⟩ := exists_mapM_eq_ok below
      refine ⟨(Branches.join bss).append ⟨[], 1⟩, ?_, ?_⟩
      · rw [Attempt.branches_waiting, hbss]
        rfl
      · have found : ((Branches.join bss).append ⟨[], 1⟩).found =
            (bss.map (·.found)).flatten := by
          simp [Branches.append, Branches.join, List.flatMap_def]
        rw [found]
        exact asks.enumerates (List.forall₂_map_right_iff.2 each)

/-! ## Arbitrary choices -/

/-- Where a decision comes first, a choice is refused, whatever follows it, or it does what one of the
listed answers does. -/
theorem refused_or_listed (resumes : Resumes p move) {ops : List Operation} {rest : List Impact}
    {pending : Pending} {source : Option Int} {g : Game}
    (start : move [] = .ok (.waiting ops rest pending source g)) (c : Choice) :
    (∃ r, ∀ cs, move (c :: cs) = .ok (.unplayable r)) ∨
      ∃ c' ∈ pending.options.choices, ∀ cs, move (c :: cs) = move (c' :: cs) := by
  have step := resumes.waiting_from_start start
  obtain ⟨is, d, rfl, hd, hw⟩ := resumes.pends [] _ start
  cases hc : pending.options.accepts c with
  | false =>
    have illegal := (step [c]).trans (Impact.resolve_illegal hd hw hc)
    exact .inl ⟨_, fun cs => resumes.append [c] cs _ illegal⟩
  | true =>
    obtain ⟨c', mem, same⟩ := Impact.resolve_listed (p := ⟨g, ops⟩) hd hw hc
    exact .inr ⟨c', mem, fun cs => (step _).trans ((same cs).trans (step _).symm)⟩

/-- Whether a move always answers is seen from the listed answers. -/
theorem answers_of_listed (resumes : Resumes p move) {a : Attempt} (start : move [] = .ok a)
    (listed : ∀ options, Asks move [] options → ∀ c ∈ options, ∀ cs, ∃ b, move (c :: cs) = .ok b)
    (cs : List Choice) : ∃ b, move cs = .ok b := by
  cases a with
  | unplayable r => exact ⟨_, resumes.from_start start cs⟩
  | complete ops g => exact ⟨_, resumes.from_start start cs⟩
  | waiting ops rest pending source g =>
    cases cs with
    | nil => exact ⟨_, start⟩
    | cons c cs =>
      obtain ⟨r, refused⟩ | ⟨c', mem, same⟩ := resumes.refused_or_listed start c
      · exact ⟨_, refused cs⟩
      · rw [same cs]
        exact listed _ ⟨ops, rest, pending, source, g, start, rfl⟩ c' mem cs

/-- Whatever choices carry a move to its end, of any number and with anything else in them, there
is a chain of answers that does the same. -/
theorem exists_completes (resumes : Resumes p move) (answers : ∀ cs, ∃ a, move cs = .ok a)
    {ops : List Operation} {g : Game} (done : move cs = .ok (.complete ops g)) :
    ∃ chain, Completes move chain ⟨g, ops⟩ := by
  induction cs generalizing move with
  | nil => exact ⟨[], done, fun ds c es h => absurd h (by simp)⟩
  | cons c cs ih =>
    obtain ⟨a, start⟩ := answers []
    cases a with
    | unplayable r => exact nomatch (resumes.from_start start (c :: cs)).symm.trans done
    | complete ops' g' =>
      cases (resumes.from_start start (c :: cs)).symm.trans done
      exact ⟨[], start, fun ds c es h => absurd h (by simp)⟩
    | waiting ops' rest pending source g' =>
      obtain ⟨r, refused⟩ | ⟨c', mem, same⟩ := resumes.refused_or_listed start c
      · exact nomatch (refused cs).symm.trans done
      · have done' : move (c' :: cs) = .ok (.complete ops g) := (same cs).symm.trans done
        obtain ⟨chain, h⟩ := ih (resumes.cons c') (fun cs => answers (c' :: cs)) done'
        exact ⟨c' :: chain, completes_cons.2
          ⟨⟨_, ⟨ops', rest, pending, source, g', start, rfl⟩, mem⟩, h⟩⟩

/-- Where a decision lists one answer twice, and that answer ends the move, the one chain there is
is found twice. -/
theorem doubled (resumes : Resumes p move) {ops : List Operation} {g : Game}
    (asks : Asks move [] [c, c]) (done : move [c] = .ok (.complete ops g)) :
    (∀ cs, ∃ a, move cs = .ok a) ∧ (∀ cs next, Completes move cs next → cs = [c]) ∧
      ∃ a, move [] = .ok a ∧ a.branches p = .ok ⟨[⟨g, ops⟩, ⟨g, ops⟩], 3⟩ := by
  have after : ∀ cs, move (c :: cs) = .ok (.complete ops g) :=
    fun cs => resumes.append [c] cs _ done
  have only : ∀ options, Asks move [] options → ∀ d ∈ options, d = c := by
    intro options asks' d hd
    obtain rfl := asks'.unique asks
    simpa using hd
  obtain ⟨ops', rest, pending, source, g', start, listed⟩ := asks
  refine ⟨?_, ?_, _, start, ?_⟩
  · refine resumes.answers_of_listed start fun options asks d hd cs => ?_
    obtain rfl := only options asks d hd
    exact ⟨_, after cs⟩
  · intro cs next h
    cases cs with
    | nil => exact nomatch start.symm.trans h.complete
    | cons d cs =>
      obtain ⟨⟨options, asks, hd⟩, h⟩ := completes_cons.1 h
      obtain rfl := only options asks d hd
      cases cs with
      | nil => rfl
      | cons e es =>
        obtain ⟨⟨options, ⟨ops', rest, pending, source, g', waits, -⟩, -⟩, -⟩ := completes_cons.1 h
        exact nomatch done.symm.trans waits
  · have below : Impact.resolve p source [c] rest ⟨g', ops'⟩ = .ok (.complete ops g) :=
      (resumes.waiting_from_start start _).symm.trans done
    rw [Attempt.branches_waiting, listed]
    simp only [List.mapM_cons, List.mapM_nil, below, ok_bind, Attempt.branches, pure_eq_ok]
    rfl

end Resumes

/-! ## Playing a card -/

namespace Game

variable {g : Game} {c : Card}

/-- While a card is played, a decision lists no answer twice. -/
theorem nodup_options_of_playCard (numbered : g.Numbered)
    (fresh : ∀ q, g.player? p = some q → ∀ d ∈ q.played, d.instanceId ≠ q.nextInstance)
    (asks : Asks (g.playCard p c ·) cs options) : options.Nodup := by
  obtain ⟨ops, rest, pending, source, g', waits, rfl⟩ := asks
  obtain ⟨q, hq, -, entry⟩ := playCard_cardEnters waits rfl
  obtain ⟨is, d, -, hd, hw⟩ := (playCard_resumes g c).pends cs _ waits
  exact Demand.distinct (Impact.demand_outline hd) (entry.numbered hq numbered (fresh q hq)) hw

/-- **What a branch adds to the log** are the operations that are listed with it. -/
theorem log_drop_of_mem_found {bs : Branches} (h : g.playBranches p c = .ok bs)
    (hnext : next ∈ bs.found) : next.game.log.drop g.log.length = next.operations := by
  obtain ⟨a, played, branches⟩ := bind_eq_ok.1 h
  have leads := (playCard_begins played).replays.found branches next hnext
  rw [log_executeAll leads, List.drop_left]

/-- The branches of a card that the resolver never fails on are what its complete chains of answers
lead to, in depth-first order. -/
theorem playBranches_enumerates (answers : ∀ cs, ∃ a, g.playCard p c cs = .ok a) :
    ∃ bs, g.playBranches p c = .ok bs ∧
      Enumerates (Precedes (g.playCard p c ·)) (Completes (g.playCard p c ·)) bs.found := by
  have resumes : Resumes p fun cs => g.playCard p c cs := playCard_resumes g c
  obtain ⟨a, start⟩ := answers []
  obtain ⟨bs, hbs, enumerates⟩ := resumes.branches_enumerates answers start
  exact ⟨bs, bind_eq_ok.2 ⟨a, start, hbs⟩, enumerates⟩

/-- So they are what any choices lead to. -/
theorem mem_found_iff {bs : Branches} (answers : ∀ cs, ∃ a, g.playCard p c cs = .ok a)
    (enumerates : Enumerates (Precedes (g.playCard p c ·)) (Completes (g.playCard p c ·)) bs.found)
    (next : Progress) :
    next ∈ bs.found ↔ ∃ cs, g.playCard p c cs = .ok (.complete next.operations next.game) := by
  constructor
  · intro hnext
    obtain ⟨cs, h⟩ := enumerates.exists_key hnext
    exact ⟨cs, h.complete⟩
  · rintro ⟨cs, done⟩
    have resumes : Resumes p fun cs => g.playCard p c cs := playCard_resumes g c
    obtain ⟨chain, h⟩ := resumes.exists_completes answers done
    exact enumerates.mem h fun y hy => h.unique hy

/-- While a card is played, chains of answers that part are not the same. -/
theorem ne_of_precedes (numbered : g.Numbered)
    (fresh : ∀ q, g.player? p = some q → ∀ d ∈ q.played, d.instanceId ≠ q.nextInstance)
    (parts : Precedes (g.playCard p c ·) cs ds) : cs ≠ ds :=
  parts.ne fun _ _ => nodup_options_of_playCard numbered fresh

/-- **Branching is exact.**  In a game whose players have their cards in play under different ids,
the next id of `p` being another, a card that the resolver never fails on is branched over like
this: whatever is found is what some choices lead to, whatever choices lead to the end, of any
number and with anything else in them, what they lead to is found; and what is found is listed once
for each complete chain of answers, in the order in which a depth-first search comes upon them. -/
theorem playBranches_exact (numbered : g.Numbered)
    (fresh : ∀ q, g.player? p = some q → ∀ d ∈ q.played, d.instanceId ≠ q.nextInstance)
    (answers : ∀ cs, ∃ a, g.playCard p c cs = .ok a) :
    ∃ bs, g.playBranches p c = .ok bs ∧
      (∀ next ∈ bs.found, ∃ cs, g.playCard p c cs = .ok (.complete next.operations next.game)) ∧
      (∀ cs ops g', g.playCard p c cs = .ok (.complete ops g') → ⟨g', ops⟩ ∈ bs.found) ∧
      Enumerates (fun cs ds => Precedes (g.playCard p c ·) cs ds ∧ cs ≠ ds)
        (Completes (g.playCard p c ·)) bs.found := by
  obtain ⟨bs, hbs, enumerates⟩ := playBranches_enumerates answers
  refine ⟨bs, hbs, ?_, ?_, ?_⟩
  · intro next hnext
    exact (mem_found_iff answers enumerates next).1 hnext
  · intro cs ops g' done
    exact (mem_found_iff answers enumerates _).2 ⟨cs, done⟩
  · exact enumerates.order_mono fun cs ds _ _ _ _ parts =>
      ⟨parts, ne_of_precedes numbered fresh parts⟩

theorem Regular.numbered (regular : g.Regular) : g.Numbered :=
  fun p q hq => (regular.sound.players p q hq).distinct

theorem Regular.fresh (regular : g.Regular) {q : Player} (hq : g.player? p = some q) :
    ∀ d ∈ q.played, d.instanceId ≠ q.nextInstance :=
  fun d hd => Int.ne_of_lt ((regular.sound.players p q hq).below d hd)

/-- A virus that was bought in `outpost` can only be aimed at plants: that is its one branch. -/
theorem playBranches_exact_virus :
    ∃ g virus bs next, virus ∈ builtInCards ["Virus"] ∧
      outpost.purchase 1 [virus] = .ok (some g) ∧ g.Numbered ∧
      (∀ q, g.player? 1 = some q → ∀ d ∈ q.played, d.instanceId ≠ q.nextInstance) ∧
      (∀ cs, ∃ a, g.playCard 1 virus cs = .ok a) ∧ g.playBranches 1 virus = .ok bs ∧
      next ∈ bs.found ∧
      g.playCard 1 virus [.ofOption 1] = .ok (.complete next.operations next.game) := by
  have plays : ((builtInCards ["Virus"]).head?.bind fun virus =>
      (outpost.purchase 1 [virus]).toOption.join.bind fun g => (g.player? 1).bind fun q =>
        (g.playCard 1 virus [.ofOption 1]).toOption.map fun a => (virus, g, q, a)).any
          (fun found => found.2.2.2.statusWord = "playable") = true := by
    decide +kernel
  obtain ⟨⟨virus, g, q, a⟩, found, word⟩ := (Option.any_eq_true _ _).1 plays
  obtain ⟨virus', head, found⟩ := Option.bind_eq_some_iff.1 found
  obtain ⟨g', bought, found⟩ := Option.bind_eq_some_iff.1 found
  obtain ⟨q', hq, found⟩ := Option.bind_eq_some_iff.1 found
  obtain ⟨a', played, same⟩ := Option.map_eq_some_iff.1 found
  cases same
  have mem : virus ∈ builtInCards ["Virus"] := List.mem_of_mem_head? head
  have purchase := toOption_eq_some.1 (Option.join_eq_some_iff.1 bought)
  have reaches := purchase_reaches outpost_opening.regular
    (fun c hc => List.mem_singleton.1 hc ▸ (builtIn_of_mem mem).wellMade) purchase
  have answers : ∀ cs, ∃ a, g.playCard 1 virus cs = .ok a := fun cs =>
    (playCard_answers reaches.regular hq virus cs).imp fun a h => h.1
  cases a with
  | unplayable r => simp [Attempt.statusWord] at word
  | waiting ops rest pending source g₁ => simp [Attempt.statusWord] at word
  | complete ops g₁ =>
    have done := toOption_eq_some.1 played
    obtain ⟨bs, hbs, -, complete, -⟩ := playBranches_exact reaches.regular.numbered
      (fun q hq => reaches.regular.fresh hq) answers
    exact ⟨g, virus, bs, ⟨g₁, ops⟩, mem, purchase, reaches.regular.numbered,
      fun q hq => reaches.regular.fresh hq, answers, hbs, complete _ ops g₁ done, done⟩

/-- A card that holds microbes and brings one to any card. -/
def pond : Card :=
  Design.card .automatic "Pond" [.microbe] 0 {
    points := Points.perCardResource 1 1 .microbe
    impacts := [.addResourceToAnyCard .microbe] }

/-- A game of one player whose next card comes into play under the id of one that is there. -/
def crowding : Game where
  board := .standard
  players := Table.ofList [(1, { id := 1, played := [⟨0, pond⟩], hand := [pond] })]

/-- The same, after no cards were bought. -/
def crowded : Game := { crowding with log := [.purchaseCards 1 []] }

/-- Both ponds are in play, under one id, and the microbe is still to come. -/
def ponds : Progress where
  game := { crowding with
    players := Table.ofList [(1, { id := 1, played := [⟨0, pond⟩, ⟨0, pond⟩], nextInstance := 1 })]
    log := [.purchaseCards 1 [], .putCardIntoPlay 1 pond 0] }
  operations := [.putCardIntoPlay 1 pond 0]

theorem crowded_playCard (cs : List Choice) : crowded.playCard 1 pond cs =
    Impact.resolve 1 (some 0) cs [.addResourceToAnyCard .microbe] ponds := rfl

/-- In `crowded` the card in the hand asks where its microbe goes, and lists the same answer twice. -/
theorem crowded_asks :
    Asks (crowded.playCard 1 pond ·) [] [.ofCard (1, 0), .ofCard (1, 0)] := by
  refine ⟨ponds.operations, [.addResourceToAnyCard .microbe],
    ⟨.addResourceToAnyCard .microbe, .cards [(1, 0), (1, 0)]⟩, some 0, ponds.game, ?_, rfl⟩
  refine (crowded_playCard []).trans ?_
  rw [Impact.resolve]
  rfl

theorem crowded_completes :
    ∃ ops g, crowded.playCard 1 pond [.ofCard (1, 0)] = .ok (.complete ops g) :=
  ⟨_, _, (crowded_playCard _).trans (Impact.resolve_answered rfl rfl rfl rfl)⟩

theorem crowded_doubled :
    (∀ cs, ∃ a, crowded.playCard 1 pond cs = .ok a) ∧
      (∀ cs next, Completes (crowded.playCard 1 pond ·) cs next → cs = [.ofCard (1, 0)]) ∧
      ∃ next, crowded.playBranches 1 pond = .ok ⟨[next, next], 3⟩ := by
  have resumes : Resumes 1 fun cs => crowded.playCard 1 pond cs := playCard_resumes crowded pond
  obtain ⟨ops, g, done⟩ := crowded_completes
  obtain ⟨answers, chain, a, start, found⟩ := resumes.doubled crowded_asks done
  exact ⟨answers, chain, ⟨g, ops⟩, bind_eq_ok.2 ⟨a, start, found⟩⟩

/-- In `crowded` no two cards in play have the same id, and the resolver does not fail on the card
in the hand; still the one complete chain of answers is found twice, because the card comes into
play under the id of the other. -/
theorem playBranches_doubled :
    crowded.Numbered ∧ (∀ cs, ∃ a, crowded.playCard 1 pond cs = .ok a) ∧
      ¬∃ bs, crowded.playBranches 1 pond = .ok bs ∧
        Enumerates (fun cs ds => cs ≠ ds) (Completes (crowded.playCard 1 pond ·)) bs.found := by
  obtain ⟨answers, chain, next, found⟩ := crowded_doubled
  refine ⟨?_, answers, ?_⟩
  · intro p q hq
    have all : ∀ e ∈ crowded.players.entries, (e.2.played.map (·.instanceId)).Nodup := by
      decide +kernel
    exact all (p, q) (Table.get?_eq_some_iff.1 hq)
  · rintro ⟨bs, hbs, keys, distinct, values, -⟩
    obtain rfl := Except.ok.inj (hbs.symm.trans found)
    obtain ⟨k, ks, first, others, rfl⟩ := List.forall₂_cons_right_iff.1 values
    obtain ⟨k', ks', second, -, rfl⟩ := List.forall₂_cons_right_iff.1 others
    obtain rfl := chain _ _ first
    obtain rfl := chain _ _ second
    exact (List.pairwise_cons.1 distinct).1 _ List.mem_cons_self rfl

end Game

end Terraforming
