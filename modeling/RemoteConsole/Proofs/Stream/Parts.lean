import RemoteConsole.Proofs.Delivery.Laws
import RemoteConsole.Proofs.Lifecycle.Calls
import RemoteConsole.Stream

/-!
# The parts of a step

What `Stream.proceed`, `Stream.consume`, `Stream.deliver` and `Stream.fireHealth` do to each part of
a stream. `consume_cases` and `deliver_cases` say which calls of the lifecycle they make.
-/

namespace RemoteConsole

namespace Stream

variable {plan : Plan} {s : Stream}

/-- The stream to which a delivery was made. -/
def afterDelivery (s : Stream) (d : Delivery) : Stream :=
  { s with
    lifecycle := { s.lifecycle with health := d.health }
    isClosed := d.isClosed
    scene := { s.scene with outlet := d.outlet } }

/-- The state of the next delivery. -/
def delivery (s : Stream) : Delivery := ⟨s.isClosed, s.lifecycle.health, s.scene.outlet⟩

/-- The stream that has taken an outcome and not looked at it. -/
def taking (s : Stream) (o : Outcome) : Stream := { s with consumed := s.consumed ++ [(s.now, o)] }

theorem deliver_flow (plan : Plan) {chunk : Option Chunk} {d : Delivery} {flow : Flow}
    (h : Delivery.process plan.setting chunk s.delivery = (d, .flow flow)) :
    s.deliver plan chunk =
      (s.afterDelivery d).proceed ((s.afterDelivery d).lifecycle.delivered flow s.now) := by
  unfold deliver
  unfold delivery at h
  rw [h]
  rfl

theorem deliver_panicked {chunk : Option Chunk} {d : Delivery}
    (h : Delivery.process plan.setting chunk s.delivery = (d, .panicked)) :
    s.deliver plan chunk = (s.afterDelivery d).crash := by
  unfold deliver
  unfold delivery at h
  rw [h]
  rfl

theorem consume_ok {o : Outcome} {l : Lifecycle} {command : Command}
    (h : s.lifecycle.receive o s.now = (l, .ok command)) :
    s.consume o = (s.taking o).proceed (l, command) := by
  have : (s.taking o).lifecycle.receive o (s.taking o).now = (l, .ok command) := h
  unfold consume
  unfold taking at this ⊢
  dsimp only at this ⊢
  rw [this]

theorem consume_fault {o : Outcome} {l : Lifecycle} {fault : Fault}
    (h : s.lifecycle.receive o s.now = (l, .error fault)) :
    s.consume o = { s.taking o with lifecycle := l, stage := .crashed } := by
  unfold consume
  dsimp only
  rw [h]
  rfl

/-- A health deadline touches the lifecycle and what is published. -/
theorem fireHealth_eq (s : Stream) :
    ∃ l published, s.fireHealth = { s with lifecycle := l, published := published } ∧
      (l = (s.lifecycle.fireHealth s.now).1 ∨ l = (s.lifecycle.fireHealth s.now).1.drained) := by
  unfold fireHealth
  dsimp only
  split
  · exact ⟨_, _, rfl, .inr rfl⟩
  · exact ⟨_, _, rfl, .inl rfl⟩

/-- A health deadline leaves the bearing alone, but for milestones that it may publish. -/
theorem fireHealth_drained (s : Stream) :
    s.fireHealth.lifecycle.bearing.drained = s.lifecycle.bearing.drained := by
  obtain ⟨l, published, heq, hl⟩ := s.fireHealth_eq
  have hbearing := s.lifecycle.bearing_fireHealth s.now
  rw [heq]
  rcases hl with rfl | rfl
  · exact congrArg Bearing.drained hbearing
  · exact congrArg (fun b => b.drained.drained) hbearing

/-- With no events that are still to be published, a health deadline is published or nothing is. -/
theorem fireHealth_quiet (h : s.lifecycle.events = []) :
    s.fireHealth = { s with
      lifecycle := { s.lifecycle with health := (s.lifecycle.health.fire s.now).1 }
      published := s.published ++
        if (s.lifecycle.health.fire s.now).2 then
          [⟨.healthChanged true, s.now, s.turns / turnsPerRound⟩]
        else [] } := by
  unfold fireHealth Lifecycle.fireHealth
  cases hraised : (s.lifecycle.health.fire s.now).2 with
  | true =>
    simp only [hraised, ↓reduceIte, publish, Lifecycle.emit, Lifecycle.drained, h, List.nil_append,
      List.map_cons, List.map_nil]
  | false => simp [hraised]

/-- The driver takes an outcome by a call of the lifecycle, which may break off. -/
theorem consume_cases (s : Stream) (o : Outcome) :
    (∃ l command, s.lifecycle.Response (.receive o s.now) l (.command command) ∧
      s.consume o = (s.taking o).proceed (l, command)) ∨
    ∃ l fault, s.lifecycle.Response (.receive o s.now) l (.broken fault) ∧
      s.consume o = { s.taking o with lifecycle := l, stage := .crashed } := by
  have hr := s.lifecycle.response (.receive o s.now)
  generalize hreceive : s.lifecycle.receive o s.now = step
  obtain ⟨l, result⟩ := step
  simp only [Lifecycle.respond, hreceive] at hr
  cases result with
  | ok command => exact .inl ⟨l, command, hr, consume_ok hreceive⟩
  | error fault => exact .inr ⟨l, fault, hr, consume_fault hreceive⟩

/-- The driver reports a delivery by a call of the lifecycle, unless a collaborator broke off. -/
theorem deliver_cases (plan : Plan) (s : Stream) (chunk : Option Chunk) :
    (∃ d flow l command, (s.afterDelivery d).lifecycle.Response (.delivered flow s.now) l
        (.command command) ∧ Delivery.process plan.setting chunk s.delivery = (d, .flow flow) ∧
      s.deliver plan chunk = (s.afterDelivery d).proceed (l, command)) ∨
    ∃ d, s.deliver plan chunk = (s.afterDelivery d).crash := by
  generalize hprocess : Delivery.process plan.setting chunk s.delivery = result
  obtain ⟨d, ending⟩ := result
  cases ending with
  | panicked => exact .inr ⟨d, deliver_panicked hprocess⟩
  | flow flow =>
    have hr := (s.afterDelivery d).lifecycle.response (.delivered flow s.now)
    exact .inl ⟨d, flow, _, _, hr, rfl, deliver_flow plan hprocess⟩

end Stream

end RemoteConsole
