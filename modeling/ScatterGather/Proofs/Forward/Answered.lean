import ScatterGather.Proofs.Forward.FirstReplies

/-!
# Every statement can be forwarded and answered

From a new engine a call for any route with units can acquire its channels (`exists_acquired`) and
register its id, any replies can then arrive (`exists_arrivals`), and the call comes to its result
with them (`exists_forwardRun`).
-/

namespace ScatterGather

/-! ### Replies that arrive -/

namespace Collector

variable {α : Type} {c : Collector α} {id : CorrelationId} {number n : Nat}

/-- The wait that is registered under an id can accept so many replies more. -/
def HasRoom (id : CorrelationId) (number n : Nat) (c : Collector α) : Prop :=
  0 < n → c.registry.find? id = some number ∧
    ∃ w, c.registry.wait? number = some w ∧ w.status = .collecting ∧ w.accepted + n ≤ w.expected

/-- An action by which a reply is offered. -/
inductive Offers : CollectorAction α → Prop where
  | offer {id item} : Offers (.offer id item)
  | advance {task} : Offers (.advance task)

/-- By offering nothing is registered, waited for or removed. -/
theorem Offers.claims? {a : CollectorAction α} (h : Offers a) : a.claims? = none := by
  cases h <;> rfl

/-- An offer takes its next step. -/
theorem exists_advance_offer {task : Nat} {id' : CorrelationId} {stage stage' : OfferStage α}
    {r : Registry α} {lines : List LogLine} (ht : c.tasks[task]? = some (.offer id' stage))
    (hs : advanceOffer c.registry id' stage = some (stage', r, lines)) :
    ∃ c', c.step (.advance task) = some c' ∧ c'.tasks[task]? = some (.offer id' stage') ∧
      c'.registry = r ∧
      c.event? (.advance task) = taskEvent? c.registry task (.offer id' stage) := by
  refine ⟨c.put task (.offer id' stage') r lines, ?_, ?_, rfl, ?_⟩
  · simp only [step, advance, ht]
    simp [hs]
  · exact List.getElem?_set_self (List.getElem?_eq_some_iff.mp ht).1
  · simp [event?, ht]

/-- A reply that is offered arrives, as long as there is room. -/
theorem exists_arrival (h : c.HasRoom id number (n + 1)) (item : α) :
    ∃ more c', c.run more = some c' ∧ (∀ a ∈ more, Offers a) ∧
      emitted step (arrival? id number) c more = [item] ∧ c'.HasRoom id number n := by
  obtain ⟨hfind, w, hw, hs, hle⟩ := h (Nat.succ_pos n)
  -- The offer begins, finds the wait, and appends to it.
  have ht₁ : (c.spawn (.offer id (.finding item))).tasks[c.tasks.length]? =
      some (.offer id (.finding item)) := List.getElem?_concat_length
  generalize hc₁ : c.spawn (.offer id (.finding item)) = c₁ at ht₁
  have hr₁ : c₁.registry = c.registry := by rw [← hc₁, registry_spawn]
  have hfound : advanceOffer c₁.registry id (.finding item) =
      some (.appending number item, c.registry, []) := by
    rw [advanceOffer, hr₁, hfind]
  obtain ⟨c₂, hs₂, ht₂, hr₂, he₂⟩ := exists_advance_offer ht₁ hfound
  have happended : advanceOffer c₂.registry id (.appending number item) =
      some (if (w.append item).2.status = .complete then .waking number else .ended true,
        c.registry.setWait number (w.append item).2, []) := by
    simp [advanceOffer, hr₂, hw, Wait.append_of_collecting hs]
  obtain ⟨c₃, hs₃, -, hr₃, he₃⟩ := exists_advance_offer ht₂ happended
  have hs₁ : c.step (.offer id item) = some c₁ := congrArg some hc₁
  refine ⟨[.offer id item, .advance c.tasks.length, .advance c.tasks.length], c₃, ?_, ?_, ?_, ?_⟩
  · exact foldlM_cons_eq_some.mpr ⟨c₁, hs₁, foldlM_cons_eq_some.mpr ⟨c₂, hs₂,
      foldlM_cons_eq_some.mpr ⟨c₃, hs₃, rfl⟩⟩⟩
  · intro a ha
    simp only [List.mem_cons, List.not_mem_nil, or_false] at ha
    rcases ha with rfl | rfl | rfl
    · exact .offer
    · exact .advance
    · exact .advance
  · have hn₁ : c.arrival? id number (.offer id item) = none := ite_self none
    have hn₂ : c₁.arrival? id number (.advance c.tasks.length) = none := by
      rw [arrival?, he₂, taskEvent?, hr₁, hfind]
      exact ite_self none
    have hn₃ : c₂.arrival? id number (.advance c.tasks.length) = some item := by
      rw [arrival?, he₃, hr₂]
      simp [taskEvent?, hw, hs, ReplyEvent.decides?]
    simp [emitted, hs₁, hs₂, hs₃, hn₁, hn₂, hn₃]
  · intro hpos
    rw [hr₃]
    refine ⟨hfind, (w.append item).2, by simp [hw], ?_, ?_⟩
    · rw [Wait.append_status hs, if_neg (by omega)]
    · rw [Wait.append_of_collecting hs]
      simp only
      omega

/-- Replies that are offered one after another arrive in this order, as long as there is room. -/
theorem exists_arrivals {items : List α} (h : c.HasRoom id number items.length) :
    ∃ more c', c.run more = some c' ∧ (∀ a ∈ more, Offers a) ∧
      emitted step (arrival? id number) c more = items := by
  induction items generalizing c with
  | nil => exact ⟨[], c, rfl, by simp, rfl⟩
  | cons item items ih =>
      obtain ⟨first, c₁, hrun, hfirst, harr, hroom⟩ := exists_arrival h item
      obtain ⟨rest, c₂, hrun', hrest, harr'⟩ := ih hroom
      refine ⟨first ++ rest, c₂, foldlM_append_eq_some.mpr ⟨c₁, hrun, hrun'⟩, ?_, ?_⟩
      · intro a ha
        rcases List.mem_append.mp ha with ha | ha
        · exact hfirst a ha
        · exact hrest a ha
      · rw [emitted_append hrun, harr, harr']
        rfl

end Collector

/-! ### Up to the registration -/

namespace ForwardEngine

variable {s : ForwardEngine} {call : Nat} {units : List PhysicalUnit}

/-- A call can acquire all its channels, and the collector stays as it is. -/
theorem exists_acquired {held todo : List UnitGroup}
    (hc : s.calls[call]? = some ⟨units, .acquiring ⟨held, false, todo⟩⟩) :
    ∃ more s' held', s.run more = some s' ∧ (∀ a ∈ more, a = .ask call ∨ a = .acquired call none) ∧
      s'.calls[call]? = some ⟨units, .acquiring ⟨held', false, []⟩⟩ ∧
      s'.collector = s.collector := by
  induction todo generalizing s held with
  | nil => exact ⟨[], s, held, rfl, by simp, hc, rfl⟩
  | cons g rest ih =>
      let s₁ := (s.record [.requested call g.dataSource]).setStage call
        (.acquiring ⟨held, true, g :: rest⟩)
      let s₂ := (s₁.record [.acquired call g.dataSource]).setStage call
        (.acquiring ⟨held ++ [g], false, rest⟩)
      have hc₁ : s₁.calls[call]? = some ⟨units, .acquiring ⟨held, true, g :: rest⟩⟩ :=
        getElem?_setStage (s := s.record _) hc _
      have hc₂ : s₂.calls[call]? = some ⟨units, .acquiring ⟨held ++ [g], false, rest⟩⟩ :=
        getElem?_setStage (s := s₁.record _) hc₁ _
      have h₁ : s.step (.ask call) = some s₁ := by
        simp [step, stage?, hc, Acquisition.ask?, s₁]
      have h₂ : s₁.step (.acquired call none) = some s₂ := by
        simp [step, stage?, hc₁, Acquisition.grant?, s₂]
      obtain ⟨more, s', held', hrun, hmore, hc', hcol⟩ := ih hc₂
      refine ⟨.ask call :: .acquired call none :: more, s', held', ?_, ?_, hc', hcol⟩
      · exact foldlM_cons_eq_some.mpr ⟨s₁, h₁, foldlM_cons_eq_some.mpr ⟨s₂, h₂, hrun⟩⟩
      · simpa using hmore

/-- A call that begins on a new engine can come to where it registers its id. -/
theorem exists_registering (settings : ForwardSettings) {route : Route} (keys : Bool)
    (hne : route.units ≠ []) :
    ∃ before s₀ held, (new settings).run before = some s₀ ∧
      s₀.calls[0]? = some ⟨route.dispatchUnits keys, .registering 1 held⟩ ∧
      s₀.collector = { Collector.empty with registry := Registry.empty.takeId.2 } ∧
      (∀ a, .collector a ∉ before) ∧ before.filterMap ForwardAction.takes? = [0] := by
  let s : ForwardEngine := { new settings with calls := [firstCall route keys] }
  have hbegin : (new settings).step (.begin route keys) = some s := rfl
  have hc : s.calls[0]? =
      some ⟨route.dispatchUnits keys, .acquiring ⟨[], false, route.groups keys⟩⟩ := by
    have hempty : route.units.isEmpty = false := by simpa using hne
    simp [s, firstCall, hempty, Acquisition.ofGroups]
  obtain ⟨more, s', held, hrun, hmore, hc', hcol⟩ := exists_acquired hc
  let s₀ : ForwardEngine := ForwardEngine.setStage
    { s' with collector := { s'.collector with registry := s'.collector.registry.takeId.2 } } 0
    (.registering 1 held)
  have htake : s'.step (.takeId 0) = some s₀ := by
    simp [step, stage?, hc', Acquisition.complete, hcol, s, new, Collector.empty, Registry.empty,
      Registry.takeId, s₀]
  refine ⟨.begin route keys :: (more ++ [.takeId 0]), s₀, held, ?_, getElem?_setStage hc' _, ?_, ?_,
    ?_⟩
  · exact foldlM_cons_eq_some.mpr ⟨s, hbegin, foldlM_concat_eq_some.mpr ⟨s', hrun, htake⟩⟩
  · simp [s₀, setStage, hcol, s, new, Collector.empty]
  · intro a ha
    simp only [List.mem_cons, List.mem_append, List.not_mem_nil, or_false] at ha
    rcases ha with ha | ha | ha
    · cases ha
    · rcases hmore _ ha with heq | heq <;> cases heq
    · cases ha
  · have hnone : more.filterMap ForwardAction.takes? = [] := by
      apply List.filterMap_eq_nil_iff.mpr
      intro a ha
      rcases hmore a ha with rfl | rfl <;> rfl
    rw [List.filterMap_cons_none rfl, List.filterMap_append, hnone]
    rfl

end ForwardEngine

/-- **Every statement with units can be forwarded, and any replies can arrive.** -/
theorem exists_forwardRun (settings : ForwardSettings) {route : Route} (keys : Bool)
    (hne : route.units ≠ []) {frames : List ReplyFrame} (hlen : frames.length = route.size) :
    ∃ before after s₀ s₁ s r, ForwardRun settings route keys 0 1 before after s₀ s₁ s ∧
      s₁.arrivals 1 (ForwardRun.number s₀) after = frames ∧
      s.stage? 0 = some (.ended (.result r)) := by
  obtain ⟨before, s₀, held, hbefore, hc₀, hcol₀, hown, htakes⟩ :=
    ForwardEngine.exists_registering settings keys hne
  have hfree : s₀.collector.registry.find? 1 = none := by
    rw [hcol₀]
    rfl
  let s₁ : ForwardEngine := ForwardEngine.setStage
    { s₀ with collector := { s₀.collector with
        registry := s₀.collector.registry.enter 1 (route.dispatchUnits keys).length } } 0
    (.sending 1 held (route.dispatchUnits keys) false)
  have hregister : s₀.step (.register 0) = some s₁ := by
    simp [ForwardEngine.step, hc₀, Registry.register_of_none hfree, s₁]
  have hc₁ : s₁.calls[0]? = some ⟨route.dispatchUnits keys,
      .sending 1 held (route.dispatchUnits keys) false⟩ := ForwardEngine.getElem?_setStage hc₀ _
  have hroom : s₁.collector.HasRoom 1 (ForwardRun.number s₀) frames.length := by
    intro hpos
    have hr₁ : s₁.collector.registry =
        s₀.collector.registry.enter 1 (route.dispatchUnits keys).length := rfl
    rw [hr₁, Registry.find?_enter hfree, if_pos rfl, Registry.wait?_enter, if_pos rfl,
      route.length_dispatchUnits keys, ← hlen]
    exact ⟨rfl, .new frames.length, rfl, if_neg (Nat.ne_of_gt hpos), Nat.le_of_eq (Nat.zero_add _)⟩
  obtain ⟨more, c, hmore, hoffers, harr⟩ := Collector.exists_arrivals hroom
  obtain ⟨hrun, harrivals⟩ := ForwardEngine.run_collector hmore
  have h : ForwardRun settings route keys 0 1 before (more.map .collector) s₀ s₁
      { s₁ with collector := c } := by
    refine ⟨hbefore, ⟨held, hc₀⟩, hregister, hrun, ?_, ?_, ?_⟩
    · intro e he
      obtain ⟨ca, -, heq⟩ := List.mem_map.mp he
      cases heq
    · intro a ha
      rcases List.mem_append.mp ha with ha | ha
      · exact absurd ha (hown a)
      · obtain ⟨ca, hca, heq⟩ := List.mem_map.mp ha
        cases heq
        rw [(hoffers _ hca).claims?]
        rintro ⟨⟩
    · have hnone : (more.map ForwardAction.collector).filterMap ForwardAction.takes? = [] := by
        simp [ForwardAction.takes?]
      rw [List.filterMap_append, htakes, hnone]
      decide
  have hgone : ¬ForwardEngine.GaveUp { s₁ with collector := c } 0 := by
    rintro ⟨c', hc', hgone⟩
    obtain rfl := Option.some.inj (hc₁.symm.trans hc')
    rcases hgone with hgone | ⟨_, _, _, _, _, _, hgone, -⟩ <;> cases hgone
  obtain ⟨rest, s, r, h', -, hquiet, hend⟩ := h.canEnd hgone
  exact ⟨before, more.map .collector ++ rest, s₀, s₁, s, r, h',
    by rw [hquiet, harrivals, harr], hend⟩

end ScatterGather
