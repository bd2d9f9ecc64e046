import ImageBuild.Session

namespace ImageBuild

/-!
# Running actions — what an action appends to the trace

`Action.Appends P` says that an action takes nothing of the trace back and only appends effects with
the property `P`, whether it fails or not.  Steps of that kind compose (`Action.Appends.bind`), so
that a whole action is followed step by step.  Steps without a session are taken apart by
`ok_of_bind` and `error_of_bind`.
-/

/-! ### Outcomes -/

section Outcomes

variable {ε α β : Type} {x : Except ε α} {f : α → Except ε β}

/-- Two steps succeed when both of them do. -/
theorem ok_of_bind {b : β} (h : (x >>= f) = .ok b) : ∃ a, x = .ok a ∧ f a = .ok b := by
  cases x with
  | error e => cases h
  | ok a => exact ⟨a, rfl, h⟩

/-- Two steps fail when the first one does, or the second one after it. -/
theorem error_of_bind {e : ε} (h : (x >>= f) = .error e) :
    x = .error e ∨ ∃ a, x = .ok a ∧ f a = .error e := by
  cases x with
  | error e' =>
    cases h
    exact Or.inl rfl
  | ok a => exact Or.inr ⟨a, rfl, h⟩

end Outcomes

/-- A session after one more effect. -/
def Session.record (s : Session) (effect : Effect) : Session :=
  { s with trace := s.trace ++ [effect] }

namespace Action

variable {α β : Type} {P : Effect → Prop}

/-! ### Runs -/

/-- A result changes nothing. -/
theorem run_pure (a : α) (s : Session) : (pure a : Action α).run s = (.ok a, s) := rfl

/-- The next action runs in the session that the first one leaves, unless that one fails. -/
theorem run_bind (action : Action α) (next : α → Action β) (s : Session) :
    (action >>= next).run s = match action.run s with
      | (.ok a, s') => (next a).run s'
      | (.error f, s') => (.error f, s') := by
  rw [ExceptT.run_bind]
  generalize hrun : action.run s = result
  obtain ⟨outcome, s'⟩ := result
  cases outcome with
  | ok a => simp [bind, StateT.bind, hrun]
  | error f =>
    simp only [bind, StateT.bind, hrun]
    rfl

/-- Two actions in a row succeed when both of them do. -/
theorem ok_of_run_bind {action : Action α} {next : α → Action β} {s s' : Session} {b : β}
    (h : (action >>= next).run s = (.ok b, s')) :
    ∃ a s₁, action.run s = (.ok a, s₁) ∧ (next a).run s₁ = (.ok b, s') := by
  rw [run_bind] at h
  split at h
  · rename_i a s₁ hrun
    exact ⟨a, s₁, hrun, h⟩
  · cases h

/-- What looks at the session runs with it. -/
theorem run_get_bind (next : Session → Action β) (s : Session) :
    (get >>= next).run s = (next s).run s := by
  rw [run_bind]
  rfl

/-- What follows a change of session runs in the new one. -/
theorem run_set_bind (session : Session) (next : PUnit → Action β) (s : Session) :
    (set session >>= next).run s = (next ()).run session := by
  rw [run_bind]
  rfl

/-- What follows a change of the session runs in the changed one. -/
theorem run_modify_bind (change : Session → Session) (next : PUnit → Action β) (s : Session) :
    (modify change >>= next).run s = (next ()).run (change s) := by
  rw [run_bind]
  rfl

/-- An outcome that may be a failure changes nothing. -/
theorem run_ofExcept (result : Except Failure α) (s : Session) :
    (ofExcept result).run s = (result, s) := by
  cases result <;> rfl

/-- What follows an effect runs with the effect recorded. -/
theorem run_emit_bind (effect : Effect) (next : Unit → Action β) (s : Session) :
    (emit effect >>= next).run s = (next ()).run (s.record effect) := by
  rw [run_bind]
  rfl

/-- A log line is recorded when it is shown. -/
theorem run_log (line : Log.Line) (s : Session) :
    (log line).run s = (.ok (), if line.isShown s.verbose then s.record (.log line) else s) := by
  rw [log, run_get_bind]
  split <;> rfl

/-- Telling several things always succeeds. -/
theorem exists_run_logAll (lines : List Log.Line) (s : Session) :
    ∃ s', (logAll lines).run s = (.ok (), s') := by
  induction lines generalizing s with
  | nil => exact ⟨s, rfl⟩
  | cons line lines ih =>
    have hrow : logAll (line :: lines) = log line >>= fun _ => logAll lines := rfl
    rw [hrow, run_bind, run_log]
    exact ih _

/-- Telling something changes nothing but the trace. -/
theorem eq_of_run_debug {message : String} {u : Unit} {s s' : Session}
    (h : (debug message).run s = (.ok u, s')) : s' = { s with trace := s'.trace } := by
  rw [debug, run_log] at h
  cases h
  split <;> rfl

/-- Telling something changes no files. -/
theorem files_of_run_debug {message : String} {u : Unit} {s s' : Session}
    (h : (debug message).run s = (.ok u, s')) : s'.files = s.files := by
  rw [eq_of_run_debug h]

/-- So does telling several things. -/
theorem files_of_run_logAll {lines : List Log.Line} {u : Unit} {s s' : Session}
    (h : (logAll lines).run s = (.ok u, s')) : s'.files = s.files := by
  induction lines generalizing s with
  | nil =>
    cases h
    rfl
  | cons line lines ih =>
    have hrow : logAll (line :: lines) = log line >>= fun _ => logAll lines := rfl
    rw [hrow, run_bind, run_log] at h
    rw [ih h]
    split <;> rfl

/-- A call is recorded once, whatever its answer is. -/
theorem trace_ask (call : Call) (s : Session) :
    ((ask call).run s).2.trace = s.trace ++ [.call call] := by
  rw [ask, run_emit_bind, run_get_bind]
  split
  · rfl
  · rename_i answer rest _
    cases answer <;> rfl

/-! ### What is appended -/

/-- Whatever happens, an action only appends effects with a property to the trace. -/
def Appends (P : Effect → Prop) (action : Action α) : Prop :=
  ∀ s, ∃ told, (action.run s).2.trace = s.trace ++ told ∧ ∀ effect ∈ told, P effect

/-- An action that leaves the trace alone appends nothing. -/
theorem appends_of_trace_eq {action : Action α}
    (h : ∀ s, (action.run s).2.trace = s.trace) : Appends P action :=
  fun s => ⟨[], by simp [h s], by simp⟩

/-- A result appends nothing. -/
theorem appends_pure (a : α) : Appends P (pure a : Action α) :=
  appends_of_trace_eq fun _ => rfl

/-- A failure appends nothing. -/
theorem appends_throw (f : Failure) : Appends P (throw f : Action α) :=
  appends_of_trace_eq fun _ => rfl

/-- An outcome that may be a failure appends nothing. -/
theorem appends_ofExcept (result : Except Failure α) : Appends P (ofExcept result) :=
  appends_of_trace_eq fun s => by rw [run_ofExcept]

/-- Looking at the session appends nothing. -/
theorem appends_get : Appends P (get : Action Session) :=
  appends_of_trace_eq fun _ => rfl

/-- A change of the session that keeps the trace appends nothing. -/
theorem appends_modify {change : Session → Session} (h : ∀ s, (change s).trace = s.trace) :
    Appends P (modify change : Action PUnit) :=
  appends_of_trace_eq h

/-- An effect appends itself. -/
theorem appends_emit {effect : Effect} (h : P effect) : Appends P (emit effect) :=
  fun _ => ⟨[effect], rfl, by simpa using h⟩

/-- Actions in a row append what each of them appends. -/
theorem Appends.bind {action : Action α} {next : α → Action β} (haction : Appends P action)
    (hnext : ∀ a, Appends P (next a)) : Appends P (action >>= next) := by
  intro s
  obtain ⟨told, htrace, htold⟩ := haction s
  rw [run_bind]
  generalize action.run s = result at htrace ⊢
  obtain ⟨outcome, s'⟩ := result
  cases outcome with
  -- a failure ends the row, and what was told before it stays
  | error f => exact ⟨told, htrace, htold⟩
  | ok a =>
    obtain ⟨told', htrace', htold'⟩ := hnext a s'
    refine ⟨told ++ told', ?_, ?_⟩
    · rw [← List.append_assoc, ← htrace]
      exact htrace'
    · intro effect heffect
      rcases List.mem_append.1 heffect with h | h
      · exact htold effect h
      · exact htold' effect h

/-- A log line appends at most itself. -/
theorem appends_log (h : ∀ line, P (.log line)) (line : Log.Line) : Appends P (log line) := by
  refine appends_get.bind fun s => ?_
  split
  · exact appends_emit (h line)
  · exact appends_pure ()

/-- A line for debugging appends at most itself. -/
theorem appends_debug (h : ∀ line, P (.log line)) (message : String) :
    Appends P (debug message) :=
  appends_log h _

/-- Log lines append at most themselves. -/
theorem appends_logAll (h : ∀ line, P (.log line)) (lines : List Log.Line) :
    Appends P (logAll lines) := by
  induction lines with
  | nil => exact appends_pure ()
  | cons line lines ih => exact (appends_log h line).bind fun _ => ih

end Action

end ImageBuild
