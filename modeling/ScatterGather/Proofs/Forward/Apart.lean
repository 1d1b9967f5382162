import ScatterGather.Proofs.Forward.Faring

/-!
# Statements that are forwarded at the same time do not mix

The result of a call follows from what it has met (`Fate`): a channel that has failed decides, and
when none has the first replies in time do. So two calls that have met the same end with the same
result, up to the numbers of their correlation ids, whatever the other calls of their engines do and
whatever is offered under other ids (`forwarded_apart`).
-/

namespace ScatterGather

open Forward

/-! ### Results up to correlation ids -/

/-- A failure without the number of a correlation id. -/
def ExecutionError.withoutId : ExecutionError → ExecutionError
  | .timeout _ waited received expected => .timeout 0 waited received expected
  | .invalidState (.waitExists _) => .invalidState (.waitExists 0)
  | .invalidState (.noWait _) => .invalidState (.noWait 0)
  | .invalidState (.alreadyAwaited _) => .invalidState (.alreadyAwaited 0)
  | .invalidState (.repliesIncomplete _ units) => .invalidState (.repliesIncomplete 0 units)
  | e => e

/-- A reply without its correlation id. -/
def ReplyFrame.withoutId (f : ReplyFrame) : ReplyFrame := { f with correlationId := 0 }

/-- Two results are the same, up to the numbers of correlation ids in failures. -/
def SameResult (r r' : Except ExecutionError Response) : Prop :=
  r.mapError ExecutionError.withoutId = r'.mapError ExecutionError.withoutId

namespace Forward

variable {id id' : CorrelationId} {timeout : Duration} {units : List PhysicalUnit}
  {frames frames' : List ReplyFrame} {r r' : Except ExecutionError Response}

/-- Only the first replies matter for a verdict, as many as there are units. -/
theorem Verdict.congr_take (h : Verdict id timeout units frames r)
    (heq : frames.take units.length = frames'.take units.length) :
    Verdict id timeout units frames' r := by
  have hlen := congrArg List.length heq
  simp only [List.length_take] at hlen
  by_cases hn : units.length ≤ frames.length
  · exact h.congr hn (by omega) (.of_eq heq)
  · have hall : frames = frames' := by
      rwa [List.take_of_length_le (by omega), List.take_of_length_le (by omega)] at heq
    exact hall ▸ h

/-- Correlation ids of replies do not matter for a verdict. -/
theorem Verdict.withoutId (h : Verdict id timeout units frames r) :
    Verdict id timeout units (frames.map ReplyFrame.withoutId) r := by
  have hlen : (frames.map ReplyFrame.withoutId).length = frames.length := List.length_map _
  have hcovers : ∀ F : List ReplyFrame,
      Covers units.length (F.map ReplyFrame.withoutId) ↔ Covers units.length F := by
    intro F
    simp [Covers, ReplyFrame.withoutId, Function.comp_def]
  cases h with
  | late h => exact hlen ▸ .late (by omega)
  | incomplete h hc =>
      rw [← hcovers, List.map_take] at hc
      exact .incomplete (by omega) hc
  | @failed f u cause h hc hf he hlow hu hi =>
      rw [← hcovers, List.map_take] at hc
      have hin := List.mem_map_of_mem (f := ReplyFrame.withoutId) hf
      rw [List.map_take] at hin
      refine .failed (f := f.withoutId) (by omega) hc hin he ?_ hu hi
      intro g hg c hgc
      rw [← List.map_take] at hg
      obtain ⟨g₀, hg₀, rfl⟩ := List.mem_map.mp hg
      exact hlow g₀ hg₀ c hgc
  | @answered inOrder outcomes h hp hi ho =>
      have hp' := hp.map ReplyFrame.withoutId
      rw [List.map_take] at hp'
      refine .answered (by omega) hp' ?_ ?_
      · simpa [ReplyFrame.withoutId, Function.comp_def] using hi
      · simpa [ReplyFrame.withoutId, Function.comp_def] using ho

/-- The same replies call for the same result under each id. -/
theorem Verdict.sameResult (hi : units.map (·.index) = List.range units.length)
    (h : Verdict id timeout units frames r) (h' : Verdict id' timeout units frames r') :
    SameResult r r' := by
  cases h with
  | late h => exact (h'.unique hi (.late h)) ▸ rfl
  | incomplete h hc => exact (h'.unique hi (.incomplete h hc)) ▸ rfl
  | failed h hc hf he hlow hu hui =>
      exact (h'.unique hi (.failed h hc hf he hlow hu hui)) ▸ rfl
  | answered h hp hidx ho => exact (h'.unique hi (.answered h hp hidx ho)) ▸ rfl

/-- Replies that are alike call for the same result. -/
theorem Verdict.apart (hi : units.map (·.index) = List.range units.length)
    (h : Verdict id timeout units frames r) (h' : Verdict id' timeout units frames' r')
    (heq : (frames.take units.length).map ReplyFrame.withoutId =
      (frames'.take units.length).map ReplyFrame.withoutId) : SameResult r r' := by
  rw [List.map_take, List.map_take] at heq
  exact (h.withoutId.congr_take heq).sameResult hi h'.withoutId

end Forward

/-! ### What a result follows from -/

/-- The result that follows from what a call has met: a channel that failed decides, else the first
replies in time do. -/
inductive Fate (timeout : Duration) (route : Route) (keys : Bool) (es : List Encounter) :
    Except ExecutionError Response → Prop where
  | idle (hroute : route.units = []) (hes : es = []) : Fate timeout route keys es (.ok .empty)
  | failed {e} (hes : (channelAnswers es).getLast? = some (some e)) :
    Fate timeout route keys es (.error e)
  | decided {id r} (hne : route.units ≠ []) (hall : ∀ answer ∈ channelAnswers es, answer = none)
    (hcount : (channelAnswers es).length =
      (route.groups keys).length + (route.dispatchUnits keys).length)
    (hv : Verdict id timeout (route.dispatchUnits keys) (repliesInTime es) r) :
    Fate timeout route keys es r

/-- Two calls have met the same, up to the numbers of correlation ids: their channels have answered
the same, and unless one of these has failed the first `n` replies in time are the same. -/
structure MetAlike (n : Nat) (es es' : List Encounter) : Prop where
  channels : (channelAnswers es).map (Option.map ExecutionError.withoutId) =
    (channelAnswers es').map (Option.map ExecutionError.withoutId)
  replies : (∀ answer ∈ channelAnswers es, answer = none) →
    ((repliesInTime es).take n).map ReplyFrame.withoutId =
      ((repliesInTime es').take n).map ReplyFrame.withoutId

namespace MetAlike

variable {n : Nat} {es es' : List Encounter}

/-- The channels of both calls have answered equally often. -/
theorem length_eq (h : MetAlike n es es') :
    (channelAnswers es).length = (channelAnswers es').length := by
  simpa using congrArg List.length h.channels

/-- A channel of the second call has failed last where one of the first has. -/
theorem getLast?_failed (h : MetAlike n es es') {e : ExecutionError}
    (he : (channelAnswers es).getLast? = some (some e)) :
    ∃ e', (channelAnswers es').getLast? = some (some e') ∧ e'.withoutId = e.withoutId := by
  have hlast := congrArg List.getLast? h.channels
  rw [List.getLast?_map, List.getLast?_map, he] at hlast
  cases hl : (channelAnswers es').getLast? with
  | none => simp [hl] at hlast
  | some answer =>
      cases answer with
      | none => simp [hl] at hlast
      | some e' =>
          simp only [hl, Option.map_some, Option.some.injEq] at hlast
          exact ⟨e', rfl, hlast.symm⟩

/-- No channel of the second call has failed where none of the first has. -/
theorem all_none (h : MetAlike n es es') (hall : ∀ answer ∈ channelAnswers es, answer = none) :
    ∀ answer ∈ channelAnswers es', answer = none := by
  intro answer ha
  have hin := List.mem_map_of_mem (f := Option.map ExecutionError.withoutId) ha
  rw [← h.channels] at hin
  obtain ⟨answer₀, ha₀, heq⟩ := List.mem_map.mp hin
  rw [hall answer₀ ha₀] at heq
  cases answer with
  | none => rfl
  | some e => cases heq

end MetAlike

/-- Where a channel has failed last, some channel has failed. -/
theorem not_all_none_of_getLast? {answers : List (Option ExecutionError)} {e : ExecutionError}
    (h : answers.getLast? = some (some e)) : ¬∀ answer ∈ answers, answer = none := by
  intro hall
  cases hall _ (List.mem_of_getLast? h)

namespace Fate

variable {timeout : Duration} {route : Route} {keys : Bool} {es es' : List Encounter}
  {r r' : Except ExecutionError Response}

/-- **Calls that have met the same come to the same result.** -/
theorem sameResult (h : Fate timeout route keys es r) (h' : Fate timeout route keys es' r')
    (ha : MetAlike route.size es es') : SameResult r r' := by
  cases h with
  | idle hroute hes =>
      cases h' with
      | idle _ _ => rfl
      | failed hes' =>
          have hnil : channelAnswers es' = [] := by
            have := ha.length_eq
            rw [hes] at this
            exact List.length_eq_zero_iff.mp this.symm
          rw [hnil] at hes'
          cases hes'
      | decided hne _ _ _ => exact absurd hroute hne
  | failed hes =>
      obtain ⟨e', hlast, heq⟩ := ha.getLast?_failed hes
      cases h' with
      | idle _ hes' =>
          rw [hes'] at hlast
          cases hlast
      | failed hes' =>
          cases hlast.symm.trans hes'
          exact congrArg Except.error heq.symm
      | decided _ hall _ _ => exact absurd hall (not_all_none_of_getLast? hlast)
  | decided hne hall _ hv =>
      cases h' with
      | idle hroute _ => exact absurd hroute hne
      | failed hes' => exact absurd (ha.all_none hall) (not_all_none_of_getLast? hes')
      | decided _ _ _ hv' =>
          have hreplies := ha.replies hall
          rw [← route.length_dispatchUnits keys] at hreplies
          refine hv.apart ?_ hv' hreplies
          rw [Route.length_dispatchUnits]
          exact route.index_dispatchUnits keys

end Fate

namespace Faring

variable {settings : ForwardSettings} {route : Route} {keys : Bool} {call : Nat}
  {actions : List ForwardAction} {es es' : List Encounter} {s : ForwardEngine}
  {r : Except ExecutionError Response}

/-- The result of a call follows from what it has met. -/
theorem fate (h : Faring settings route keys call actions es s)
    (hend : s.stage? call = some (.ended (.result r))) :
    Fate settings.timeout route keys es r := by
  obtain ⟨c, hc, hst⟩ := ForwardEngine.stage?_eq_some.mp hend
  cases h with
  | gaveUp h =>
      obtain ⟨c', hc', hgone⟩ := h
      obtain rfl := Option.some.inj (hc.symm.trans hc')
      rw [hst] at hgone
      rcases hgone with hgone | ⟨_, _, _, _, _, _, hgone, -⟩ <;> cases hgone
  | idle hroute hes hc' =>
      obtain rfl := Option.some.inj (hc.symm.trans hc')
      cases hst
      exact .idle hroute hes
  | acquiring _ _ _ hc' | registering _ _ hc' =>
      obtain rfl := Option.some.inj (hc.symm.trans hc')
      cases hst
  | failed hes hending =>
      obtain ⟨c', hc', hending⟩ := hending
      obtain rfl := Option.some.inj (hc.symm.trans hc')
      rw [hst] at hending
      cases hending
      exact .failed hes
  | registered hne _ h hin hall hc' hcount =>
      obtain rfl := Option.some.inj (hc.symm.trans hc')
      rw [hst] at hcount
      exact .decided hne hall hcount ((h.verdict hend).congr_take hin.take_eq.symm)

/-- A call that has met what gives another call a result can be brought to its own, unless it is
given up. -/
theorem canEnd (h : Faring settings route keys call actions es' s) (hgone : ¬s.GaveUp call)
    (hfate : Fate settings.timeout route keys es r) (ha : MetAlike route.size es es') :
    ∃ more s' r', s.run more = some s' ∧ (∀ a ∈ more, a.IsStepOf call) ∧
      s'.stage? call = some (.ended (.result r')) ∧
      Fate settings.timeout route keys es' r' := by
  have hfull : ∀ k ≤ (route.groups keys).length, route.units ≠ [] →
      channelAnswers es' ≠ List.replicate k none := by
    intro k hk hne hes'
    cases hfate with
    | idle hroute _ => exact hne hroute
    | failed hes =>
        obtain ⟨e', hlast, -⟩ := ha.getLast?_failed hes
        refine not_all_none_of_getLast? hlast fun answer hin => ?_
        rw [hes'] at hin
        exact (List.mem_replicate.mp hin).2
    | decided _ _ hcount _ =>
        have hlen := ha.length_eq
        rw [hcount, hes', List.length_replicate, Route.length_dispatchUnits] at hlen
        have hpos : 0 < route.size := List.length_pos_iff.mpr hne
        omega
  cases h with
  | gaveUp h => exact absurd h hgone
  | idle hroute hes hc =>
      exact ⟨[], s, _, rfl, by simp, by simp [ForwardEngine.stage?, hc], .idle hroute hes⟩
  | @acquiring a hne hof hes hc =>
      have hle := congrArg List.length hof.groups_eq
      rw [List.length_append] at hle
      exact absurd (hes ▸ channelAnswers_replicate _) (hfull a.held.length (by omega) hne)
  | registering hne hes hc =>
      exact absurd (hes ▸ channelAnswers_replicate _) (hfull _ (Nat.le_refl _) hne)
  | failed hes hend =>
      obtain ⟨more, s', hrun, hmore, hend'⟩ := hend.canEnd
      exact ⟨more, s', _, hrun, hmore, hend', .failed hes⟩
  | registered hne _ h hin hall _ _ =>
      obtain ⟨more, s', r', h', hmore, hquiet, hend⟩ := h.canEnd hgone
      obtain ⟨u, hu, hrun⟩ := foldlM_append_eq_some.mp h'.after_run
      obtain rfl := Option.some.inj (h.after_run.symm.trans hu)
      have hv := h'.verdict hend
      rw [hquiet] at hv
      refine ⟨more, s', r', hrun, hmore, hend,
        .decided hne hall ?_ (hv.congr_take hin.take_eq.symm)⟩
      cases hfate with
      | idle hroute _ => exact absurd hroute hne
      | failed hes =>
          obtain ⟨e', hlast, -⟩ := ha.getLast?_failed hes
          exact absurd hall (not_all_none_of_getLast? hlast)
      | decided _ _ hcount _ => exact ha.length_eq.symm.trans hcount

end Faring

/-! ### The main result -/

/-- **Statements that are forwarded at the same time do not mix.** When two calls for the same
statement, each among the calls of its own engine, have met the same up to the numbers of their
correlation ids, and the first has ended, then so does the second: it ends with the same result
where it has ended, and can be brought to it from wherever it stands unless it is given up. What
else the engines do, and what is offered under other ids, does not show. -/
theorem forwarded_apart {settings : ForwardSettings} {route : Route} {keys : Bool}
    {call call' : Nat} {before after before' after' : List ForwardAction}
    {s₀ s s₀' s' : ForwardEngine} {r : Except ExecutionError Response}
    (h : Forwarding settings route keys call before after s₀ s)
    (h' : Forwarding settings route keys call' before' after' s₀' s')
    (halike : MetAlike route.size (s₀.encounters call (.begin route keys :: after))
      (s₀'.encounters call' (.begin route keys :: after')))
    (hend : s.stage? call = some (.ended (.result r))) :
    (∀ r', s'.stage? call' = some (.ended (.result r')) → SameResult r r') ∧
      (¬s'.GaveUp call' → ∃ more s'' r', s'.run more = some s'' ∧
        (∀ a ∈ more, a.IsStepOf call') ∧ s''.stage? call' = some (.ended (.result r')) ∧
        SameResult r r') := by
  have hfate := h.faring.fate hend
  constructor
  · intro r' hend'
    exact hfate.sameResult (h'.faring.fate hend') halike
  · intro hgone
    obtain ⟨more, s'', r', hrun, hmore, hend', hfate'⟩ := h'.faring.canEnd hgone hfate halike
    exact ⟨more, s'', r', hrun, hmore, hend', hfate.sameResult hfate' halike⟩

/-- A statement for one data source. -/
def oneSource : Route := (Route.ofStatement (.ofKind .dml)).withUnit "ds_0" "a"

/-- A call for it goes its way alone. -/
def answeredAlone : List ForwardAction :=
  [.ask 0, .acquired 0 none, .takeId 0, .register 0, .send 0, .sent 0 none,
    .collector (.offer 1 ⟨1, 0, .ok 3 0⟩), .collector (.advance 0), .collector (.advance 0),
    .giveBack 0, .await 0, .collector (.advance 1), .collector (.advance 1),
    .collector (.advance 1), .collector (.advance 1), .collector (.advance 1),
    .collector (.advance 1), .settle 0, .leave 0, .collector (.advance 2), .conclude 0]

/-- Another call for it has registered its id. -/
def waitingForReply : List ForwardAction :=
  [.begin oneSource false, .ask 0, .acquired 0 none, .takeId 0, .register 0]

/-- A call begins then, and goes its way while the other one is replied to and given up. -/
def answeredAmongOthers : List ForwardAction :=
  [.ask 1, .acquired 1 none, .takeId 1, .register 1, .send 1, .sent 1 none,
    .collector (.offer 1 ⟨1, 0, .ok 9 0⟩), .collector (.advance 0), .collector (.advance 0),
    .collector (.offer 2 ⟨2, 0, .ok 3 0⟩), .collector (.advance 1), .collector (.advance 1),
    .drop 0, .giveBack 1, .await 1, .collector (.advance 2), .collector (.advance 2),
    .collector (.advance 2), .collector (.advance 2), .collector (.advance 2),
    .collector (.advance 2), .settle 1, .leave 1, .collector (.advance 3), .conclude 1]

/-- A call among others gets what it gets alone. -/
theorem forwarded_apart_busy : ∃ s₀ s s₀' s' r r',
    Forwarding ⟨.ofSeconds 1, none, false⟩ oneSource false 0 [] answeredAlone s₀ s ∧
    Forwarding ⟨.ofSeconds 1, none, false⟩ oneSource false 1 waitingForReply answeredAmongOthers
      s₀' s' ∧
    s.stage? 0 = some (.ended (.result r)) ∧ s'.stage? 1 = some (.ended (.result r')) ∧
    SameResult r r' := by
  have h : Forwarding ⟨.ofSeconds 1, none, false⟩ oneSource false 0 [] answeredAlone _ _ :=
    ⟨rfl, rfl, rfl, by simp [answeredAlone, CollectorAction.claims?], by decide⟩
  have h' : Forwarding ⟨.ofSeconds 1, none, false⟩ oneSource false 1 waitingForReply
      answeredAmongOthers _ _ :=
    ⟨rfl, rfl, rfl, by simp [waitingForReply, answeredAmongOthers, CollectorAction.claims?],
      by decide⟩
  exact ⟨_, _, _, _, _, _, h, h', rfl, rfl,
    (forwarded_apart h h' ⟨rfl, fun _ => rfl⟩ rfl).1 _ rfl⟩

end ScatterGather
