import Mathlib.Data.List.Basic

/-!
# Machines with hidden events

A deterministic machine answers every event with an output. Some events are
hidden; a visible event may read a value from the part of the state that hidden
events change. When a hidden event never changes the core of the state, and a
visible one is a function of the core and of the value it reads, then two runs
with the same visible events, which read the same values, have the same public
outputs.
-/

namespace Interaction

structure Machine (S E O : Type*) where
  step : S → E → S × O

namespace Machine

variable {S E O V K P : Type*} (m : Machine S E O)

/-- The state after some events. -/
def run : S → List E → S
  | s, [] => s
  | s, e :: es => run (m.step s e).1 es

/-- The outputs of the visible events of a run, in order. -/
def outputs (visible : E → Bool) : S → List E → List O
  | _, [] => []
  | s, e :: es =>
      let rest := outputs visible (m.step s e).1 es
      if visible e then (m.step s e).2 :: rest else rest

/-- The values that a run reads, in order. -/
def readings (reads : S → E → Option V) : S → List E → List V
  | _, [] => []
  | s, e :: es => (reads s e).toList ++ readings reads (m.step s e).1 es

/-- What makes hidden events unobservable. -/
structure Isolates (visible : E → Bool) (reads : S → E → Option V) (core : S → K)
    (isPublic : O → P) : Prop where
  hidden : ∀ s e, visible e = false → core (m.step s e).1 = core s
  silent : ∀ s e, visible e = false → reads s e = none
  reading : ∀ s t e, core s = core t → (reads s e).isSome = (reads t e).isSome
  seen : ∀ s t e, visible e = true → core s = core t → reads s e = reads t e →
    core (m.step s e).1 = core (m.step t e).1 ∧
      isPublic (m.step s e).2 = isPublic (m.step t e).2

variable {m} {visible : E → Bool} {reads : S → E → Option V} {core : S → K}
  {isPublic : O → P}

/-- Hidden events in front of a run change nothing of it. -/
theorem Isolates.skip (h : m.Isolates visible reads core isPublic) (s : S)
    {cs : List E} (hcs : ∀ c ∈ cs, visible c = false) (es : List E) :
    core (m.run s cs) = core s ∧
      m.outputs visible s (cs ++ es) = m.outputs visible (m.run s cs) es ∧
      m.readings reads s (cs ++ es) = m.readings reads (m.run s cs) es := by
  induction cs generalizing s with
  | nil => exact ⟨rfl, rfl, rfl⟩
  | cons c cs ih =>
      have hc := hcs c (List.mem_cons_self ..)
      obtain ⟨hcore, houtputs, hreadings⟩ :=
        ih (m.step s c).1 fun d hd => hcs d (List.mem_cons_of_mem _ hd)
      refine ⟨hcore.trans (h.hidden s c hc), ?_, ?_⟩
      · rw [List.cons_append, outputs, hc]
        exact houtputs
      · rw [List.cons_append, readings, h.silent s c hc]
        exact hreadings

/-- One visible event of two runs: the values it reads are the same, and so are
the ones that are read later. -/
theorem Isolates.readings_cons (h : m.Isolates visible reads core isPublic) {s t : S}
    {e : E} {es es' : List E} (hcore : core s = core t)
    (hreadings : m.readings reads s (e :: es) = m.readings reads t (e :: es')) :
    reads s e = reads t e ∧
      m.readings reads (m.step s e).1 es = m.readings reads (m.step t e).1 es' := by
  have hsome := h.reading s t e hcore
  rw [readings, readings] at hreadings
  cases hs : reads s e with
  | none =>
      cases ht : reads t e with
      | none =>
          rw [hs, ht] at hreadings
          exact ⟨rfl, hreadings⟩
      | some v =>
          rw [hs, ht] at hsome
          cases hsome
  | some v =>
      cases ht : reads t e with
      | none =>
          rw [hs, ht] at hsome
          cases hsome
      | some v' =>
          rw [hs, ht] at hreadings
          obtain ⟨rfl, hrest⟩ := List.cons_eq_cons.mp hreadings
          exact ⟨rfl, hrest⟩

/-- Two runs with the same visible events and the same readings. -/
theorem Isolates.outputs_eq (h : m.Isolates visible reads core isPublic) {s t : S}
    {es es' : List E} (hcore : core s = core t)
    (hevents : es.filter visible = es'.filter visible)
    (hreadings : m.readings reads s es = m.readings reads t es') :
    (m.outputs visible s es).map isPublic = (m.outputs visible t es').map isPublic := by
  induction es generalizing s t es' with
  | nil =>
      have hhidden : ∀ c ∈ es', visible c = false := by
        intro c hc
        rw [List.filter_nil, eq_comm, List.filter_eq_nil_iff] at hevents
        exact Bool.eq_false_iff.mpr (hevents c hc)
      obtain ⟨-, houtputs, -⟩ := h.skip t hhidden []
      rw [List.append_nil] at houtputs
      rw [houtputs]
      rfl
  | cons e es ih =>
      cases hvisible : visible e with
      | false =>
          have hhidden : ∀ c ∈ [e], visible c = false := by
            intro c hc
            rw [List.mem_singleton.mp hc, hvisible]
          obtain ⟨hcore', houtputs, hreads⟩ := h.skip s hhidden es
          rw [List.singleton_append] at houtputs hreads
          rw [List.filter_cons_of_neg (Bool.eq_false_iff.mp hvisible)] at hevents
          rw [houtputs]
          exact ih (hcore'.trans hcore) hevents (hreads.symm.trans hreadings)
      | true =>
          -- the other run reaches the same event after some hidden ones
          rw [List.filter_cons_of_pos hvisible, eq_comm, List.filter_eq_cons_iff] at hevents
          obtain ⟨cs, es'', rfl, hcs, -, hrest⟩ := hevents
          obtain ⟨hcore', houtputs, hreads⟩ :=
            h.skip t (fun c hc => Bool.eq_false_iff.mpr (hcs c hc)) (e :: es'')
          have hsame : core s = core (m.run t cs) := hcore.trans hcore'.symm
          obtain ⟨hread, hlater⟩ := h.readings_cons hsame (hreadings.trans hreads)
          obtain ⟨hnext, hpublic⟩ := h.seen s (m.run t cs) e hvisible hsame hread
          rw [houtputs, outputs, outputs, hvisible]
          simp only [if_true, List.map_cons]
          rw [hpublic, ih hnext hrest.symm hlater]

end Machine

end Interaction
