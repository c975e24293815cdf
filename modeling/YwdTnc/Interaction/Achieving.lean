import YwdTnc.Interaction.Serving

/-!
# Programs that a system can serve to their end

`Achieves server pre p post` says that from every state of the program and of the system where
`pre` holds, the system can answer the calls of `p`, with steps of its own in between, in such a
way that `p` returns where `post` holds. There is one rule for each way of composing programs;
the one for calls asks for an answer that the system can give. An achieved program has a run,
and the system a service of it (`Achieves.exists_run`).
-/

namespace Interaction

universe u v

namespace Prog

variable {Q : Type*} {A : Q → Type*} {ε σ τ : Type*} {α β : Type v}

/-- The program returns `a` over the trace `t`, and leaves what its script holds behind that. -/
def Completes (p : Prog A ε σ α) (s : σ) (a : α) (s' : σ) (t : List (Call A ε)) : Prop :=
  ∃ env, ∀ rest, p.run s (env ++ rest) = ⟨.returned a, s', rest, t⟩

theorem Completes.runs {p : Prog A ε σ α} {s s' : σ} {a : α} {t : List (Call A ε)}
    (h : Completes p s a s' t) : Runs p s (.returned a) s' t := by
  obtain ⟨env, hrun⟩ := h
  exact ⟨env ++ [], [], hrun []⟩

theorem completes_ret (a : α) (s : σ) : Completes (ret a : Prog A ε σ α) s a s [] :=
  ⟨[], fun _ => rfl⟩

theorem completes_get (s : σ) : Completes (get : Prog A ε σ σ) s s s [] := ⟨[], fun _ => rfl⟩

theorem completes_modify (f : σ → σ) (s : σ) :
    Completes (modify f : Prog A ε σ Unit) s () (f s) [] :=
  ⟨[], fun _ => rfl⟩

/-- A script that answers this call and refuses any other one. -/
theorem completes_call [Nonempty ε] {q : Q} (a : A q) (s : σ) :
    Completes (call q : Prog A ε σ (A q)) s a s [⟨q, some (.ok a)⟩] := by
  classical
  obtain ⟨e⟩ := ‹Nonempty ε›
  refine ⟨[fun q' => if h : q = q' then .ok (h ▸ a) else .error e], fun rest => ?_⟩
  simp [call]

theorem Completes.bind {p : Prog A ε σ α} {f : α → Prog A ε σ β} {s s₁ s' : σ} {a : α} {b : β}
    {t t' : List (Call A ε)} (hp : Completes p s a s₁ t) (hf : Completes (f a) s₁ b s' t') :
    Completes (p >>= f) s b s' (t ++ t') := by
  obtain ⟨env, hrun⟩ := hp
  obtain ⟨env', hrun'⟩ := hf
  refine ⟨env ++ env', fun rest => ?_⟩
  change (andThen p f).run s (env ++ env' ++ rest) = _
  simp only [andThen, List.append_assoc, hrun, hrun']

theorem Completes.exists_bind {p : Prog A ε σ α} {f : α → Prog A ε σ β} {s s₁ s' : σ} {a : α}
    {b : β} {t : List (Call A ε)} (hp : Completes p s a s₁ t)
    (hf : ∃ t', Completes (f a) s₁ b s' t') : ∃ t', Completes (p >>= f) s b s' t' := by
  obtain ⟨t', hf⟩ := hf
  exact ⟨t ++ t', hp.bind hf⟩

theorem completes_ofExcept {x : Except ε α} {a : α} (h : x = .ok a) (s : σ) :
    Completes (ofExcept x : Prog A ε σ α) s a s [] := by
  rw [h]
  exact completes_ret a s

theorem Completes.attempt {p : Prog A ε σ α} {s s' : σ} {a : α} {t : List (Call A ε)}
    (h : Completes p s a s' t) : Completes (Prog.attempt p) s (.ok a) s' t := by
  obtain ⟨env, hrun⟩ := h
  exact ⟨env, fun rest => by simp only [Prog.attempt, hrun]⟩

theorem Completes.ensuring {p : Prog A ε σ α} {s s' : σ} {a : α} {t : List (Call A ε)}
    (h : Completes p s a s' t) (f : σ → σ) : Completes (Prog.ensuring p f) s a (f s') t := by
  obtain ⟨env, hrun⟩ := h
  exact ⟨env, fun rest => by simp only [Prog.ensuring, hrun]⟩

theorem Completes.zoom {view : σ → τ} {put : σ → τ → σ} {p : Prog A ε τ α} {s : σ} {x : τ}
    {a : α} {t : List (Call A ε)} (h : Completes p (view s) a x t) :
    Completes (Prog.zoom view put p) s a (put s x) t := by
  obtain ⟨env, hrun⟩ := h
  exact ⟨env, fun rest => by simp only [Prog.zoom, hrun]⟩

/-- A loop whose first round is its last one. -/
theorem Completes.iterate {body : Prog A ε σ (Option β)} {s s' : σ} {b : β} {t : List (Call A ε)}
    (h : Completes body s (some b) s' t) : Completes (Prog.iterate body) s b s' t := by
  obtain ⟨env, hrun⟩ := h
  refine ⟨env, fun rest => ?_⟩
  simp only [Prog.iterate, Prog.iterate.go, andThen, hrun]
  simp [ret]

end Prog

namespace Server

open Prog

variable {S L Q : Type*} {A : Q → Type u} {ε : Type*} {server : Server S L A ε} {w w₁ w' : S}
  {t t' : List (Call A ε)} {ls ls' : List L}

theorem Serves.append (h : server.Serves w t ls w₁) (h' : server.Serves w₁ t' ls' w') :
    server.Serves w (t ++ t') (ls ++ ls') w' := by
  induction h with
  | nil w => exact h'
  | step hstep hspontaneous _ ih => exact .step hstep hspontaneous (ih h')
  | call hanswers _ ih =>
      rw [List.cons_append, List.append_assoc]
      exact .call hanswers (ih h')

theorem serves_own (h : (server.system.restrict server.spontaneous).Run w ls w') :
    server.Serves w [] ls w' := by
  induction h with
  | nil w => exact .nil w
  | cons hstep _ ih => exact .step hstep.1 hstep.2 ih

variable {σ τ : Type*} {α β : Type v}

variable (server) in
def Achieves (pre : σ → S → Prop) (p : Prog A ε σ α) (post : α → σ → S → Prop) : Prop :=
  ∀ s w, pre s w → ∃ a s' t ls w',
    Completes p s a s' t ∧ server.Serves w t ls w' ∧ post a s' w'

variable {pre : σ → S → Prop} {post : α → σ → S → Prop}

theorem Achieves.exists_run {p : Prog A ε σ α} (h : server.Achieves pre p post) {s : σ} {w : S}
    (hpre : pre s w) :
    ∃ a s' t ls w', Runs p s (.returned a) s' t ∧ server.Serves w t ls w' ∧ post a s' w' := by
  obtain ⟨a, s', t, ls, w', hcompletes, hserves, hpost⟩ := h s w hpre
  exact ⟨a, s', t, ls, w', hcompletes.runs, hserves, hpost⟩

theorem Achieves.weaken {pre' : σ → S → Prop} {post' : α → σ → S → Prop} {p : Prog A ε σ α}
    (h : server.Achieves pre' p post') (hpre : ∀ s w, pre s w → pre' s w)
    (hpost : ∀ a s w, post' a s w → post a s w) : server.Achieves pre p post := by
  intro s w hs
  obtain ⟨a, s', t, ls, w', hcompletes, hserves, h'⟩ := h s w (hpre s w hs)
  exact ⟨a, s', t, ls, w', hcompletes, hserves, hpost _ _ _ h'⟩

theorem achieves_pure {a : α} (h : ∀ s w, pre s w → post a s w) :
    server.Achieves pre (pure a) post :=
  fun s w hs => ⟨a, s, [], [], w, completes_ret a s, .nil w, h s w hs⟩

theorem achieves_get {post : σ → σ → S → Prop} (h : ∀ s w, pre s w → post s s w) :
    server.Achieves pre (get : Prog A ε σ σ) post :=
  fun s w hs => ⟨s, s, [], [], w, completes_get s, .nil w, h s w hs⟩

theorem achieves_modify {f : σ → σ} {post : Unit → σ → S → Prop}
    (h : ∀ s w, pre s w → post () (f s) w) :
    server.Achieves pre (modify f : Prog A ε σ Unit) post :=
  fun s w hs => ⟨(), f s, [], [], w, completes_modify f s, .nil w, h s w hs⟩

theorem achieves_ofExcept {x : Except ε α} (h : ∀ s w, pre s w → ∃ a, x = .ok a ∧ post a s w) :
    server.Achieves pre (ofExcept x) post := by
  intro s w hs
  obtain ⟨a, hx, hpost⟩ := h s w hs
  exact ⟨a, s, [], [], w, completes_ofExcept hx s, .nil w, hpost⟩

/-- A call that the system can answer with a value. -/
theorem achieves_call [Nonempty ε] {q : Q} {post : A q → σ → S → Prop}
    (h : ∀ s w, pre s w → ∃ a ls w', server.answers w ⟨q, some (.ok a)⟩ ls w' ∧ post a s w') :
    server.Achieves pre (call q : Prog A ε σ (A q)) post := by
  intro s w hs
  obtain ⟨a, ls, w', hanswers, hpost⟩ := h s w hs
  have hserves := Serves.call hanswers (.nil w')
  exact ⟨a, s, _, _, w', completes_call a s, hserves, hpost⟩

/-- The system may take steps of its own first. -/
theorem Achieves.behind {pre' : σ → S → Prop} {p : Prog A ε σ α} (h : server.Achieves pre' p post)
    (hown : ∀ s w, pre s w → ∃ ls w', (server.system.restrict server.spontaneous).Run w ls w' ∧
      pre' s w') : server.Achieves pre p post := by
  intro s w hs
  obtain ⟨ls, w₁, hrun, hs₁⟩ := hown s w hs
  obtain ⟨a, s', t, ls', w', hcompletes, hserves, hpost⟩ := h s w₁ hs₁
  exact ⟨a, s', t, ls ++ ls', w', hcompletes, (serves_own hrun).append hserves, hpost⟩

theorem Achieves.bind {p : Prog A ε σ α} {f : α → Prog A ε σ β} {M : α → σ → S → Prop}
    {post : β → σ → S → Prop} (hp : server.Achieves pre p M)
    (hf : ∀ a, server.Achieves (M a) (f a) post) : server.Achieves pre (p >>= f) post := by
  intro s w hs
  obtain ⟨a, s₁, t, ls, w₁, hcompletes, hserves, hM⟩ := hp s w hs
  obtain ⟨b, s', t', ls', w', hcompletes', hserves', hpost⟩ := hf a s₁ w₁ hM
  exact ⟨b, s', t ++ t', ls ++ ls', w', hcompletes.bind hcompletes', hserves.append hserves',
    hpost⟩

/-- A `try` whose body is achieved goes on with its value. -/
theorem Achieves.attempt_bind {ε : Type v} {server : Server S L A ε} {p : Prog A ε σ α}
    {f : Except ε α → Prog A ε σ β} {M : α → σ → S → Prop} {post : β → σ → S → Prop}
    (hp : server.Achieves pre p M) (hf : ∀ a, server.Achieves (M a) (f (.ok a)) post) :
    server.Achieves pre (Prog.attempt p >>= f) post := by
  intro s w hs
  obtain ⟨a, s₁, t, ls, w₁, hcompletes, hserves, hM⟩ := hp s w hs
  obtain ⟨b, s', t', ls', w', hcompletes', hserves', hpost⟩ := hf a s₁ w₁ hM
  exact ⟨b, s', t ++ t', ls ++ ls', w', hcompletes.attempt.bind hcompletes',
    hserves.append hserves', hpost⟩

theorem Achieves.ensuring {p : Prog A ε σ α} {f : σ → σ}
    (h : server.Achieves pre p fun a s w => post a (f s) w) :
    server.Achieves pre (Prog.ensuring p f) post := by
  intro s w hs
  obtain ⟨a, s', t, ls, w', hcompletes, hserves, hpost⟩ := h s w hs
  exact ⟨a, f s', t, ls, w', hcompletes.ensuring f, hserves, hpost⟩

theorem achieves_zoom {view : σ → τ} {put : σ → τ → σ} {p : Prog A ε τ α}
    (h : ∀ s w, pre s w →
      server.Achieves (fun x w' => x = view s ∧ w' = w) p fun a x w' => post a (put s x) w') :
    server.Achieves pre (zoom view put p) post := by
  intro s w hs
  obtain ⟨a, x, t, ls, w', hcompletes, hserves, hpost⟩ := h s w hs _ _ ⟨rfl, rfl⟩
  exact ⟨a, put s x, t, ls, w', hcompletes.zoom, hserves, hpost⟩

theorem achieves_iterate {body : Prog A ε σ (Option α)}
    (h : server.Achieves pre body fun b s w => ∃ a, b = some a ∧ post a s w) :
    server.Achieves pre (iterate body) post := by
  intro s w hs
  obtain ⟨b, s', t, ls, w', hcompletes, hserves, a, rfl, hpost⟩ := h s w hs
  exact ⟨a, s', t, ls, w', hcompletes.iterate, hserves, hpost⟩

end Server

/-! ### A server that remembers -/

namespace System

variable {S L : Type*} (sys : System S L)

/-- A system together with the labels of its run. -/
def remembering : System (S × List L) L where
  initial s := sys.initial s.1 ∧ s.2 = []
  step s l s' := sys.step s.1 l s'.1 ∧ s'.2 = s.2 ++ [l]

variable {sys} {s s' : S} {ls : List L}

theorem Run.remembered (h : sys.Run s ls s') (past : List L) :
    sys.remembering.Run (s, past) ls (s', past ++ ls) := by
  induction h generalizing past with
  | nil s =>
      rw [List.append_nil]
      exact .nil _
  | @cons s s₁ s' l ls hstep _ ih =>
      have hrest := ih (past ++ [l])
      rw [List.append_assoc, List.singleton_append] at hrest
      exact .cons ⟨hstep, rfl⟩ hrest

theorem Run.remembered_restrict {guard : S → L → Prop} (h : (sys.restrict guard).Run s ls s')
    (past : List L) :
    (sys.remembering.restrict fun s l => guard s.1 l).Run (s, past) ls (s', past ++ ls) := by
  induction h generalizing past with
  | nil s =>
      rw [List.append_nil]
      exact .nil _
  | @cons s s₁ s' l ls hstep _ ih =>
      have hrest := ih (past ++ [l])
      rw [List.append_assoc, List.singleton_append] at hrest
      exact .cons ⟨⟨hstep.1, rfl⟩, hstep.2⟩ hrest

end System

namespace Server

variable {S L Q : Type*} {A : Q → Type u} {ε : Type*} (server : Server S L A ε)

/-- The server together with the labels of its run. -/
def recording : Server (S × List L) L A ε where
  system := server.system.remembering
  spontaneous s l := server.spontaneous s.1 l
  answers s c ls s' := server.answers s.1 c ls s'.1 ∧ s'.2 = s.2 ++ ls
  run_of_answers := by
    rintro ⟨s, past⟩ c ls ⟨s', _⟩ ⟨hanswers, rfl⟩
    exact (server.run_of_answers hanswers).remembered past

variable {server} {t : List (Call A ε)} {ls : List L}

theorem Serves.recorded {r r' : S × List L} (h : server.recording.Serves r t ls r') :
    server.Serves r.1 t ls r'.1 ∧ r'.2 = r.2 ++ ls := by
  induction h with
  | nil r => exact ⟨.nil r.1, (List.append_nil r.2).symm⟩
  | step hstep hspontaneous _ ih =>
      refine ⟨.step hstep.1 hspontaneous ih.1, ?_⟩
      rw [ih.2, hstep.2, List.append_assoc, List.singleton_append]
  | call hanswers _ ih =>
      refine ⟨.call hanswers.1 ih.1, ?_⟩
      rw [ih.2, hanswers.2, List.append_assoc]

end Server

end Interaction
