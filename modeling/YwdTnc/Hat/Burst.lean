import YwdTnc.Hat.AX25AFSKTX
import YwdTnc.Interaction.Projection

/-!
# A burst on its way to the air

The transmit side as a system: the main program loads bursts, refills the bit ring of the
radio driver and keys the transmitter, and the bit clock takes the bits out of the ring, also
in the middle of a refill. An account of a run notes what was put and clocked out since the
last burst was accepted. In every run the bits clocked out are the waveform of that burst in
its order (`Accounts`): no bit is lost to a full ring, the transmitter is keyed once, and it
is released only when nothing is left. If the main program comes round in time, the ring does
not run dry before the end either (`Fed`).
-/

namespace YwdTnc

open Coding Interaction CAX25AFSKTX

namespace Burst

/-- The length of the ring of the radio driver. -/
def CIO_FIFO_LENGTH : ℕ := 1024

inductive Main where
  | idle
  /-- In `io.write`, with the samples that are not in the ring yet, and with `count` and
  `wasTX` of `process`. -/
  | writing (rest : List Bool) (count : ℕ) (wasTX : Bool)
  deriving DecidableEq

structure State where
  engine : CAX25AFSKTX
  tx : Bool
  ring : List Bool
  /-- `m_ywdAx25SampleEdges`. -/
  sampleEdges : ℕ
  main : Main
  deriving DecidableEq

inductive Event where
  | load (packed : Bytes) (bitCount : ℕ)
  | abort
  /-- `io.getSpace` has returned `space`. -/
  | refill (space : ℕ)
  | put (bit : Bool)
  /-- The return from `io.write`, which may have keyed the transmitter. -/
  | written (keyed : Bool)
  | release
  /-- The interrupt of the bit clock, and what it found in the ring. -/
  | clock (bit : Option Bool)
  deriving DecidableEq

/-- What `io.getSpace` may return: never too much, unless the ring is full, where a race with
the bit clock can show it as empty. -/
def SpaceFor (ring : List Bool) (space : ℕ) : Prop :=
  ring.length < CIO_FIFO_LENGTH → space + ring.length ≤ CIO_FIFO_LENGTH

/-- A full ring rejects the bit, and `io.write` does not report it. -/
def putBit (ring : List Bool) (bit : Bool) : List Bool :=
  if ring.length < CIO_FIFO_LENGTH then ring ++ [bit] else ring

def countEdge (sampleEdges : ℕ) : ℕ :=
  if sampleEdges < 65535 then sampleEdges + 1 else sampleEdges

/-- `process` returns before `io.write` when there is nothing to write. -/
def Main.afterRefill (samples : List Bool) (tx : Bool) : Main :=
  if samples = [] then .idle else .writing samples samples.length tx

inductive Step : State → Event → State → Prop
  | load {engine engine' : CAX25AFSKTX} {tx : Bool} {ring : List Bool} {edges : ℕ}
      {packed : Bytes} {bitCount : ℕ}
      (h : engine.writeSelectors tx packed bitCount = (engine', 0)) :
      Step ⟨engine, tx, ring, edges, .idle⟩ (.load packed bitCount) ⟨engine', tx, ring, 0, .idle⟩
  | abort {engine : CAX25AFSKTX} {tx : Bool} {ring : List Bool} {edges : ℕ} :
      Step ⟨engine, tx, ring, edges, .idle⟩ .abort ⟨engine.abort, tx, ring, edges, .idle⟩
  | refill {engine : CAX25AFSKTX} {tx : Bool} {ring : List Bool} {edges space : ℕ}
      (h : SpaceFor ring space) :
      Step ⟨engine, tx, ring, edges, .idle⟩ (.refill space)
        ⟨(engine.refill space).2, tx, ring, edges, .afterRefill (engine.refill space).1 tx⟩
  | put {engine : CAX25AFSKTX} {tx wasTX bit : Bool} {ring rest : List Bool} {edges count : ℕ} :
      Step ⟨engine, tx, ring, edges, .writing (bit :: rest) count wasTX⟩ (.put bit)
        ⟨engine, tx, putBit ring bit, edges, .writing rest count wasTX⟩
  /-- `io.write` keys the transmitter if it is off. -/
  | written {engine : CAX25AFSKTX} {tx wasTX : Bool} {ring : List Bool} {edges count : ℕ} :
      Step ⟨engine, tx, ring, edges, .writing [] count wasTX⟩ (.written !tx)
        ⟨engine.countWrite wasTX true count, true, ring, edges, .idle⟩
  /-- `io.process` finds the ring empty and no refill pending. -/
  | release {engine : CAX25AFSKTX} {edges : ℕ} (h : engine.busy = false) :
      Step ⟨engine, true, [], edges, .idle⟩ .release ⟨engine, false, [], edges, .idle⟩
  | clock {engine : CAX25AFSKTX} {ring : List Bool} {edges : ℕ} {main : Main} :
      Step ⟨engine, true, ring, edges, main⟩ (.clock ring.head?)
        ⟨engine, true, ring.tail, countEdge edges, main⟩

def State.init : State := ⟨.init, false, [], 0, .idle⟩

def system : System State Event where
  initial s := s = .init
  step := Step

/-! ### Accounts of a run -/

/-- What a run has shown since the last accepted burst. `since` counts the clocks since the
snapshot of the last completed refill, `sinceSpace` those since the last snapshot. -/
structure Account where
  burst : List Bool
  put : List Bool
  sent : List Bool
  aborted : Bool
  keyups : ℕ
  clocks : ℕ
  since : ℕ
  sinceSpace : ℕ
  deriving DecidableEq

namespace Account

def init : Account := ⟨[], [], [], false, 0, 0, 0, 0⟩

/-- The selectors as the host unpacks them. -/
def selectorsOf (packed : Bytes) (bitCount : ℕ) : List Bool :=
  match unpackSelectors packed bitCount with
  | .ok selectors => selectors
  | .error _ => []

def note (account : Account) : Event → Account
  | .load packed bitCount => { init with burst := selectorsOf packed bitCount }
  | .abort => { account with aborted := true }
  | .refill _ => { account with sinceSpace := 0 }
  | .put bit => { account with put := account.put ++ [bit] }
  | .written keyed =>
      { account with
        keyups := if keyed then account.keyups + 1 else account.keyups
        since := account.sinceSpace }
  | .release => account
  | .clock bit =>
      { account with
        sent := account.sent ++ bit.toList
        clocks := account.clocks + 1
        since := account.since + 1
        sinceSpace := account.sinceSpace + 1 }

def of (events : List Event) : Account := events.foldl note .init

theorem of_append (events : List Event) (event : Event) :
    of (events ++ [event]) = (of events).note event :=
  List.foldl_append

end Account

/-! ### The invariant -/

def Main.rest : Main → List Bool
  | .idle => []
  | .writing rest _ _ => rest

/-- The samples of the refill that has not been counted yet. -/
def Main.uncounted : Main → ℕ
  | .idle => 0
  | .writing _ count _ => count

/-- Before the first refill has been written out, and from then on. -/
inductive Keying (account : Account) (s : State) : Prop
  | before (hkeyups : account.keyups = 0) (htx : s.tx = false)
      (hput : s.main = .idle → account.put = []) : Keying account s
  | behind (hkeyups : account.keyups = 1)
      (hreleased : s.tx = false → s.engine.active = false ∧ s.main = .idle ∧ s.ring = []) :
      Keying account s

structure Accounts (account : Account) (s : State) : Prop where
  playing : s.engine.Playing
  burst_le : account.burst.length ≤ CAX25AFSKTX.MAX_SELECTORS
  is_prefix : account.put ++ s.main.rest <+: waveform account.burst
  generated : account.aborted = false →
    s.engine.selectors = account.burst ∧
      s.engine.position = (account.put ++ s.main.rest).length
  aborted : account.aborted = true → s.engine.active = false
  ring_eq : account.put = account.sent ++ s.ring
  room : s.ring.length + s.main.rest.length ≤ CIO_REFILL_MAX
  keyups_eq : s.engine.keyups = account.keyups
  keying : Keying account s
  wasTX_eq : ∀ rest count wasTX, s.main = .writing rest count wasTX → wasTX = s.tx
  queued : s.engine.samplesQueued + s.main.uncounted = (account.put ++ s.main.rest).length
  edges : s.sampleEdges = min account.clocks 65535

theorem accounts_init : Accounts .init .init where
  playing := playing_init
  burst_le := Nat.zero_le _
  is_prefix := List.nil_prefix
  generated _ := ⟨rfl, rfl⟩
  aborted := nofun
  ring_eq := rfl
  room := Nat.zero_le _
  keyups_eq := rfl
  keying := .before rfl rfl fun _ => rfl
  wasTX_eq := nofun
  queued := rfl
  edges := rfl

/-- A released transmitter has left nothing in the ring. -/
theorem Accounts.ring_of_released {account : Account} {engine : CAX25AFSKTX} {ring : List Bool}
    {edges : ℕ} (h : Accounts account ⟨engine, false, ring, edges, .idle⟩) : ring = [] := by
  cases h.keying with
  | before hkeyups htx hput =>
      have hring := h.ring_eq
      rw [hput rfl] at hring
      exact (List.append_eq_nil_iff.mp hring.symm).2
  | behind hkeyups hreleased => exact (hreleased rfl).2.2

theorem Accounts.load {account : Account} {engine engine' : CAX25AFSKTX} {tx : Bool}
    {ring : List Bool} {edges : ℕ} {packed : Bytes} {bitCount : ℕ}
    (h : Accounts account ⟨engine, tx, ring, edges, .idle⟩)
    (hload : engine.writeSelectors tx packed bitCount = (engine', 0)) :
    Accounts (account.note (.load packed bitCount)) ⟨engine', tx, ring, 0, .idle⟩ := by
  rcases writeSelectors_cases engine tx packed bitCount with
    ⟨hrefused, -⟩ | ⟨hloaded, hinactive, htx, hpos, hmax, hlength⟩
  · rw [hload] at hrefused
    exact absurd rfl hrefused
  · rw [hload, Prod.mk.injEq] at hloaded
    obtain ⟨rfl, -⟩ := hloaded
    subst htx
    obtain rfl := h.ring_of_released
    have hselectors : Account.selectorsOf packed bitCount =
        (engine.load packed bitCount).selectors := by
      rw [Account.selectorsOf, load_selectors hlength]
    refine ⟨playing_load engine hpos hmax, ?_, List.nil_prefix, fun _ => ⟨hselectors.symm, rfl⟩,
      nofun, rfl, Nat.zero_le _, rfl, .before rfl rfl fun _ => rfl, nofun, rfl, rfl⟩
    change (Account.selectorsOf packed bitCount).length ≤ CAX25AFSKTX.MAX_SELECTORS
    rw [hselectors, selectors_length]
    exact hmax

theorem Main.afterRefill_rest (samples : List Bool) (tx : Bool) :
    (Main.afterRefill samples tx).rest = samples ∧
      (Main.afterRefill samples tx).uncounted = samples.length := by
  unfold Main.afterRefill
  split
  case isTrue hnone => rw [hnone]; exact ⟨rfl, rfl⟩
  case isFalse => exact ⟨rfl, rfl⟩

/-- A refill goes on in the waveform where the last one has stopped, and fits. -/
theorem Accounts.refill {account : Account} {engine : CAX25AFSKTX} {tx : Bool}
    {ring : List Bool} {edges space : ℕ} (h : Accounts account ⟨engine, tx, ring, edges, .idle⟩)
    (hspace : SpaceFor ring space) :
    Accounts (account.note (.refill space))
      ⟨(engine.refill space).2, tx, ring, edges, .afterRefill (engine.refill space).1 tx⟩ := by
  have hroom : ring.length ≤ CIO_REFILL_MAX := h.room
  have hengine : engine.Playing := h.playing
  rw [refill_eq_generate]
  generalize hbudget : min (space - CIO_FIFO_RESERVE) CIO_REFILL_MAX = budget
  obtain ⟨hplaying, hselectors, hposition, hsamples⟩ := hengine.generate budget
  obtain ⟨hkeyups, hqueued⟩ := generate_counters engine budget
  obtain ⟨hrest, huncounted⟩ := Main.afterRefill_rest (engine.generate budget).1 tx
  have hput : account.put ++ [] = account.put := List.append_nil _
  refine ⟨hplaying, h.burst_le, ?_, fun hwhole => ?_, fun haborted => ?_, h.ring_eq, ?_,
    hkeyups.trans h.keyups_eq, ?_, ?_, ?_, h.edges⟩
  · dsimp only
    rw [hrest]
    change account.put ++ (engine.generate budget).1 <+: waveform account.burst
    cases hcut : account.aborted with
    | true =>
        rw [generate_of_inactive (h.aborted hcut)]
        exact h.is_prefix
    | false =>
        obtain ⟨hburst, hpos⟩ := h.generated hcut
        have hfirst : account.put = (waveform account.burst).take account.put.length :=
          List.prefix_iff_eq_take.mp (hput ▸ h.is_prefix)
        have hpos : engine.position = account.put.length := hpos.trans (congrArg _ hput)
        have hburst : engine.selectors = account.burst := hburst
        rw [hsamples, hburst, hpos]
        nth_rewrite 1 [hfirst]
        rw [← List.take_add]
        exact List.take_prefix _ _
  · obtain ⟨hburst, hpos⟩ := h.generated hwhole
    refine ⟨hselectors.trans hburst, ?_⟩
    dsimp only
    rw [hrest, hposition, List.length_append]
    exact congrArg (· + (engine.generate budget).1.length)
      (hpos.trans (congrArg List.length hput))
  · have hinactive : engine.active = false := h.aborted haborted
    rw [generate_of_inactive hinactive]
    exact hinactive
  · dsimp only
    have hfits : space + ring.length ≤ CIO_FIFO_LENGTH := by
      refine hspace (lt_of_le_of_lt hroom ?_)
      decide
    have hlength := congrArg List.length hsamples
    rw [List.length_take] at hlength
    rw [hrest]
    unfold CIO_FIFO_LENGTH at hfits
    unfold CIO_FIFO_RESERVE CIO_REFILL_MAX at hbudget
    unfold CIO_REFILL_MAX at hroom ⊢
    omega
  · cases h.keying with
    | before hkeyups htx hidle =>
        refine .before hkeyups htx fun _ => hidle rfl
    | behind hkeyups hreleased =>
        refine .behind hkeyups fun htx => ?_
        obtain ⟨hinactive, -, hring⟩ := hreleased htx
        have hinactive : engine.active = false := hinactive
        rw [generate_of_inactive hinactive]
        exact ⟨hinactive, rfl, hring⟩
  · intro rest count wasTX hmain
    unfold Main.afterRefill at hmain
    split at hmain
    · cases hmain
    · cases hmain
      rfl
  · dsimp only
    have hqueued' : engine.samplesQueued + 0 = (account.put ++ []).length := h.queued
    rw [hrest, huncounted, hqueued, List.length_append]
    rw [hput] at hqueued'
    exact congrArg (· + (engine.generate budget).1.length) hqueued'

/-- Samples written out one by one: none is rejected. -/
theorem Accounts.put {account : Account} {engine : CAX25AFSKTX} {tx wasTX bit : Bool}
    {ring rest : List Bool} {edges count : ℕ}
    (h : Accounts account ⟨engine, tx, ring, edges, .writing (bit :: rest) count wasTX⟩) :
    Accounts (account.note (.put bit))
      ⟨engine, tx, putBit ring bit, edges, .writing rest count wasTX⟩ := by
  have hroom : ring.length + (rest.length + 1) ≤ CIO_REFILL_MAX := h.room
  have hfree : ring.length < CIO_FIFO_LENGTH := by
    unfold CIO_REFILL_MAX at hroom
    unfold CIO_FIFO_LENGTH
    omega
  have hmoved : account.put ++ [bit] ++ rest = account.put ++ bit :: rest := by
    rw [List.append_assoc, List.singleton_append]
  rw [putBit, if_pos hfree]
  refine ⟨h.playing, h.burst_le, ?_, fun hwhole => ?_, h.aborted, ?_, ?_, h.keyups_eq, ?_, ?_, ?_,
    h.edges⟩
  · exact hmoved.symm ▸ h.is_prefix
  · exact ⟨(h.generated hwhole).1, hmoved.symm ▸ (h.generated hwhole).2⟩
  · change account.put ++ [bit] = account.sent ++ (ring ++ [bit])
    have hring : account.put = account.sent ++ ring := h.ring_eq
    rw [hring, List.append_assoc]
  · change (ring ++ [bit]).length + rest.length ≤ CIO_REFILL_MAX
    rw [List.length_append, List.length_singleton]
    omega
  · cases h.keying with
    | before hkeyups htx hidle => exact .before hkeyups htx nofun
    | behind hkeyups hreleased => exact .behind hkeyups fun htx => nomatch (hreleased htx).2.1
  · intro rest' count' wasTX' hmain
    cases hmain
    exact h.wasTX_eq _ _ _ rfl
  · exact hmoved.symm ▸ h.queued

/-- No legal burst fills the sample counter. -/
theorem Accounts.put_length_le {account : Account} {s : State} (h : Accounts account s) :
    (account.put ++ s.main.rest).length ≤ 65535 := by
  have hle := h.is_prefix.length_le
  have hburst := h.burst_le
  rw [waveform_length] at hle
  have hmul := Nat.mul_le_mul_left SAMPLES_PER_SYMBOL hburst
  have hmax : SAMPLES_PER_SYMBOL * CAX25AFSKTX.MAX_SELECTORS ≤ 65535 := by decide
  omega

/-- The first write of a burst keys the transmitter, the others find it keyed. -/
theorem Accounts.written {account : Account} {engine : CAX25AFSKTX} {tx wasTX : Bool}
    {ring : List Bool} {edges count : ℕ}
    (h : Accounts account ⟨engine, tx, ring, edges, .writing [] count wasTX⟩) :
    Accounts (account.note (.written !tx))
      ⟨engine.countWrite wasTX true count, true, ring, edges, .idle⟩ := by
  have hwas : wasTX = tx := h.wasTX_eq _ _ _ rfl
  subst hwas
  have hlength : engine.samplesQueued + count = (account.put ++ []).length := h.queued
  have hle : (account.put ++ []).length ≤ 65535 := h.put_length_le
  have hkeyups : engine.keyups = account.keyups := h.keyups_eq
  refine ⟨h.playing.countWrite _ _ _, h.burst_le, h.is_prefix, h.generated, h.aborted, h.ring_eq,
    h.room, ?_, ?_, nofun, ?_, h.edges⟩
  · cases h.keying with
    | before hnone htx hidle =>
        have htx : wasTX = false := htx
        subst htx
        simp only [countWrite, Account.note, hkeyups, hnone]
        rfl
    | behind hone hreleased =>
        cases wasTX with
        | false => nomatch (hreleased rfl).2.1
        | true => exact hkeyups
  · cases h.keying with
    | before hnone htx hidle =>
        have htx : wasTX = false := htx
        subst htx
        exact .behind (congrArg (· + 1) hnone) nofun
    | behind hone hreleased =>
        cases wasTX with
        | false => nomatch (hreleased rfl).2.1
        | true => exact .behind hone nofun
  · change (if 65535 < engine.samplesQueued + count then 65535
      else engine.samplesQueued + count) + 0 = (account.put ++ []).length
    rw [if_neg (by omega), hlength, Nat.add_zero]

/-- The transmitter is released behind the last sample. -/
theorem Accounts.release {account : Account} {engine : CAX25AFSKTX} {edges : ℕ}
    (h : Accounts account ⟨engine, true, [], edges, .idle⟩) (hbusy : engine.busy = false) :
    Accounts (account.note .release) ⟨engine, false, [], edges, .idle⟩ := by
  refine ⟨h.playing, h.burst_le, h.is_prefix, h.generated, h.aborted, h.ring_eq, h.room,
    h.keyups_eq, ?_, nofun, h.queued, h.edges⟩
  cases h.keying with
  | before hnone htx hidle => cases htx
  | behind hone hreleased => exact .behind hone fun _ => ⟨hbusy, rfl, rfl⟩

theorem countEdge_min (clocks : ℕ) : countEdge (min clocks 65535) = min (clocks + 1) 65535 := by
  unfold countEdge
  split <;> omega

/-- A clock takes the first bit of the ring, if there is one. -/
theorem Accounts.clock {account : Account} {engine : CAX25AFSKTX} {ring : List Bool} {edges : ℕ}
    {main : Main} (h : Accounts account ⟨engine, true, ring, edges, main⟩) :
    Accounts (account.note (.clock ring.head?))
      ⟨engine, true, ring.tail, countEdge edges, main⟩ := by
  have hroom : ring.length + main.rest.length ≤ CIO_REFILL_MAX := h.room
  have hedges : edges = min account.clocks 65535 := h.edges
  refine ⟨h.playing, h.burst_le, h.is_prefix, h.generated, h.aborted, ?_, ?_, h.keyups_eq, ?_,
    h.wasTX_eq, h.queued, ?_⟩
  · have hring : account.put = account.sent ++ ring := h.ring_eq
    change account.put = account.sent ++ ring.head?.toList ++ ring.tail
    rw [hring, List.append_assoc]
    cases ring <;> rfl
  · change ring.tail.length + main.rest.length ≤ CIO_REFILL_MAX
    rw [List.length_tail]
    omega
  · cases h.keying with
    | before hnone htx hidle => cases htx
    | behind hone hreleased => exact .behind hone nofun
  · rw [hedges]
    exact countEdge_min account.clocks

theorem Accounts.abort {account : Account} {engine : CAX25AFSKTX} {tx : Bool} {ring : List Bool}
    {edges : ℕ} (h : Accounts account ⟨engine, tx, ring, edges, .idle⟩) :
    Accounts (account.note .abort) ⟨engine.abort, tx, ring, edges, .idle⟩ := by
  refine ⟨.abort, h.burst_le, h.is_prefix, nofun, fun _ => rfl, h.ring_eq, h.room, h.keyups_eq,
    ?_, nofun, h.queued, h.edges⟩
  cases h.keying with
  | before hnone htx hidle => exact .before hnone htx hidle
  | behind hone hreleased =>
      exact .behind hone fun htx => ⟨rfl, rfl, (hreleased htx).2.2⟩

theorem Accounts.step {account : Account} {s s' : State} {event : Event}
    (h : Accounts account s) (hstep : Step s event s') : Accounts (account.note event) s' := by
  cases hstep with
  | load hload => exact h.load hload
  | abort => exact h.abort
  | refill hspace => exact h.refill hspace
  | put => exact h.put
  | written => exact h.written
  | release hbusy => exact h.release hbusy
  | clock => exact h.clock

theorem accounts_run {events : List Event} {s : State} (h : system.Run .init events s) :
    Accounts (Account.of events) s := by
  refine System.Run.traced_nil (I := fun events s => Accounts (Account.of events) s)
    (fun events s event s' hinv hstep => ?_) h accounts_init
  rw [Account.of_append]
  exact hinv.step hstep

/-! ### A burst that is over -/

/-- An engine at rest that was not aborted has put the whole waveform. -/
theorem Accounts.put_of_inactive {account : Account} {s : State} (h : Accounts account s)
    (hinactive : s.engine.active = false) (hwhole : account.aborted = false) :
    account.put ++ s.main.rest = waveform account.burst := by
  obtain ⟨hburst, hposition⟩ := h.generated hwhole
  have hend := h.playing.position_of_inactive hinactive
  rw [hburst, hposition] at hend
  exact h.is_prefix.eq_of_length hend

/-- A quiet modem has sent the whole of a burst that was not aborted, keyed once for it, and
its counters say so. -/
theorem Accounts.quiet {account : Account} {engine : CAX25AFSKTX} {ring : List Bool} {edges : ℕ}
    (h : Accounts account ⟨engine, false, ring, edges, .idle⟩) (hinactive : engine.active = false)
    (hwhole : account.aborted = false) :
    account.sent = waveform account.burst ∧ (account.burst ≠ [] → account.keyups = 1) ∧
      engine.samplesQueued = account.sent.length := by
  have hput : account.put ++ [] = waveform account.burst := h.put_of_inactive hinactive hwhole
  have hring : account.put = account.sent ++ ring := h.ring_eq
  have hqueued : engine.samplesQueued + 0 = (account.put ++ []).length := h.queued
  rw [h.ring_of_released, List.append_nil] at hring
  rw [List.append_nil] at hput hqueued
  rw [hring] at hput hqueued
  refine ⟨hput, fun hburst => ?_, hqueued⟩
  cases h.keying with
  | before hnone htx hidle =>
      have hnothing : account.put = [] := hidle rfl
      rw [← hring, hnothing] at hput
      have hlength := congrArg List.length hput
      rw [waveform_length, List.length_nil] at hlength
      have hzero : account.burst.length = 0 := by
        unfold SAMPLES_PER_SYMBOL at hlength
        omega
      exact absurd (List.length_eq_zero_iff.mp hzero) hburst
  | behind hone hreleased => exact hone

/-! ### A burst without gaps -/

/-- Every refill is written out before 768 clocks have passed since the snapshot of the one
before it. -/
def Timely (events : List Event) : Prop :=
  ∀ before bit after, events = before ++ .clock bit :: after →
    (Account.of before).since < CIO_REFILL_MAX

theorem Account.since_le (events : List Event) :
    (Account.of events).since ≤ events.length ∧ (Account.of events).sinceSpace ≤ events.length := by
  induction events using List.reverseRecOn with
  | nil => exact ⟨le_refl _, le_refl _⟩
  | append_singleton events event ih =>
      rw [Account.of_append, List.length_append, List.length_singleton]
      cases event <;> simp only [Account.note, Account.init] <;> omega

/-- A short run is in time. -/
theorem timely_of_length_le {events : List Event} (h : events.length ≤ CIO_REFILL_MAX) :
    Timely events := by
  intro before bit after hevents
  have hsince := (Account.since_le before).1
  rw [hevents, List.length_append, List.length_cons] at h
  omega

/-- The refills whose snapshot is the free space itself. -/
def exactSpace (s : State) : Event → Prop
  | .refill space => space + s.ring.length = CIO_FIFO_LENGTH
  | _ => True

/-- The samples that were in the ring at the last snapshot, or came with its refill, outlast
the clocks since then. -/
structure Fed (account : Account) (s : State) : Prop where
  busy : s.tx = true → s.engine.active = true ∨ s.main ≠ .idle →
    CIO_REFILL_MAX ≤ s.ring.length + account.since
  writing : s.engine.active = true → s.main ≠ .idle →
    s.ring.length + s.main.rest.length + account.sinceSpace = CIO_REFILL_MAX

theorem Timely.of_append {events : List Event} {event : Event} (h : Timely (events ++ [event])) :
    Timely events := by
  intro before bit after hevents
  refine h before bit (after ++ [event]) ?_
  rw [hevents, List.append_assoc, List.cons_append]

theorem Timely.since_lt {events : List Event} {bit : Option Bool}
    (h : Timely (events ++ [.clock bit])) : (Account.of events).since < CIO_REFILL_MAX :=
  h events bit [] rfl

/-- A refill with samples left to generate fills the ring up. -/
theorem Fed.refill {account : Account} {engine : CAX25AFSKTX} {tx : Bool} {ring : List Bool}
    {edges space : ℕ} (h : Fed account ⟨engine, tx, ring, edges, .idle⟩)
    (haccounts : Accounts account ⟨engine, tx, ring, edges, .idle⟩)
    (hspace : space + ring.length = CIO_FIFO_LENGTH) :
    Fed (account.note (.refill space))
      ⟨(engine.refill space).2, tx, ring, edges, .afterRefill (engine.refill space).1 tx⟩ := by
  have hengine : engine.Playing := haccounts.playing
  have hroom : ring.length + 0 ≤ CIO_REFILL_MAX := haccounts.room
  have hactive_of : (engine.refill space).2.active = true → engine.active = true := by
    intro hactive
    by_contra hoff
    rw [refill_eq_generate, generate_of_inactive (Bool.eq_false_iff.mpr hoff)] at hactive
    exact hoff hactive
  constructor
  · intro htx hbusy
    refine h.busy htx (.inl ?_)
    rcases hbusy with hactive | hmain
    · exact hactive_of hactive
    · by_contra hoff
      rw [refill_eq_generate, generate_of_inactive (Bool.eq_false_iff.mpr hoff)] at hmain
      exact hmain rfl
  · intro hactive hmain
    obtain ⟨hrest, -⟩ := Main.afterRefill_rest (engine.refill space).1 tx
    have hlength : (engine.refill space).1.length =
        min (space - CIO_FIFO_RESERVE) CIO_REFILL_MAX := by
      have hactive : (engine.refill space).2.active = true := hactive
      rw [refill_eq_generate] at hactive ⊢
      exact hengine.generate_length hactive
    have hfilled : ring.length + (engine.refill space).1.length = CIO_REFILL_MAX := by
      rw [hlength]
      unfold CIO_FIFO_LENGTH at hspace
      unfold CIO_FIFO_RESERVE
      unfold CIO_REFILL_MAX at hroom ⊢
      omega
    dsimp only
    rw [hrest, hfilled]
    rfl

theorem Fed.put {account : Account} {engine : CAX25AFSKTX} {tx wasTX bit : Bool}
    {ring rest : List Bool} {edges count : ℕ}
    (h : Fed account ⟨engine, tx, ring, edges, .writing (bit :: rest) count wasTX⟩)
    (hroom : ring.length + (rest.length + 1) ≤ CIO_REFILL_MAX) :
    Fed (account.note (.put bit))
      ⟨engine, tx, putBit ring bit, edges, .writing rest count wasTX⟩ := by
  have hlength : (putBit ring bit).length = ring.length + 1 := by
    unfold CIO_REFILL_MAX at hroom
    rw [putBit, CIO_FIFO_LENGTH, if_pos (by omega), List.length_append, List.length_singleton]
  constructor
  · intro htx _
    have hfed : CIO_REFILL_MAX ≤ ring.length + account.since := h.busy htx (.inr nofun)
    change CIO_REFILL_MAX ≤ (putBit ring bit).length + account.since
    omega
  · intro hactive _
    have hfed : ring.length + (rest.length + 1) + account.sinceSpace = CIO_REFILL_MAX :=
      h.writing hactive nofun
    change (putBit ring bit).length + rest.length + account.sinceSpace = CIO_REFILL_MAX
    omega

/-- A write that is over makes its snapshot the one that counts. -/
theorem Fed.written {account : Account} {engine : CAX25AFSKTX} {tx wasTX : Bool}
    {ring : List Bool} {edges count : ℕ}
    (h : Fed account ⟨engine, tx, ring, edges, .writing [] count wasTX⟩) :
    Fed (account.note (.written !tx))
      ⟨engine.countWrite wasTX true count, true, ring, edges, .idle⟩ := by
  constructor
  · intro _ hbusy
    rcases hbusy with hactive | hmain
    · have hfed : ring.length + 0 + account.sinceSpace = CIO_REFILL_MAX :=
        h.writing hactive nofun
      change CIO_REFILL_MAX ≤ ring.length + account.sinceSpace
      omega
    · exact absurd rfl hmain
  · exact fun _ hmain => absurd rfl hmain

/-- A timely clock finds a bit. -/
theorem Fed.clock {account : Account} {engine : CAX25AFSKTX} {ring : List Bool} {edges : ℕ}
    {main : Main} (h : Fed account ⟨engine, true, ring, edges, main⟩)
    (hsince : account.since < CIO_REFILL_MAX) :
    Fed (account.note (.clock ring.head?)) ⟨engine, true, ring.tail, countEdge edges, main⟩ := by
  constructor
  · intro _ hbusy
    have hfed : CIO_REFILL_MAX ≤ ring.length + account.since := h.busy rfl hbusy
    change CIO_REFILL_MAX ≤ ring.tail.length + (account.since + 1)
    rw [List.length_tail]
    omega
  · intro hactive hmain
    have hfed : CIO_REFILL_MAX ≤ ring.length + account.since := h.busy rfl (.inr hmain)
    have hsum : ring.length + main.rest.length + account.sinceSpace = CIO_REFILL_MAX :=
      h.writing hactive hmain
    change ring.tail.length + main.rest.length + (account.sinceSpace + 1) = CIO_REFILL_MAX
    rw [List.length_tail]
    omega

theorem Fed.step {account : Account} {s s' : State} {event : Event} (h : Fed account s)
    (haccounts : Accounts account s) (hstep : Step s event s') (hspace : exactSpace s event)
    (hsince : ∀ bit, event = .clock bit → account.since < CIO_REFILL_MAX) :
    Fed (account.note event) s' := by
  cases hstep with
  | load hload =>
      refine ⟨fun htx => ?_, fun _ hmain => absurd rfl hmain⟩
      rcases writeSelectors_cases _ _ _ _ with ⟨hrefused, -⟩ | ⟨-, -, hoff, -⟩
      · rw [hload] at hrefused
        exact absurd rfl hrefused
      · exact absurd (hoff.symm.trans htx) (by decide)
  | abort =>
      refine ⟨fun _ hbusy => ?_, fun hactive => nomatch hactive⟩
      rcases hbusy with hactive | hmain
      · cases hactive
      · exact absurd rfl hmain
  | refill => exact h.refill haccounts hspace
  | put => exact h.put haccounts.room
  | written => exact h.written
  | release hbusy => exact ⟨nofun, fun _ hmain => absurd rfl hmain⟩
  | clock => exact h.clock (hsince _ rfl)

theorem fed_run {events : List Event} {s : State}
    (h : (system.restrict exactSpace).Run .init events s) (htimely : Timely events) :
    Fed (Account.of events) s := by
  have hrun := System.Run.traced_nil
    (I := fun events s => Accounts (Account.of events) s ∧
      (Timely events → Fed (Account.of events) s))
    (fun events s event s' hinv hstep => by
      rw [Account.of_append]
      refine ⟨hinv.1.step hstep.1, fun htimely => ?_⟩
      refine (hinv.2 htimely.of_append).step hinv.1 hstep.1 hstep.2 fun bit hclock => ?_
      rw [hclock] at htimely
      exact htimely.since_lt)
    h ⟨accounts_init, fun _ => ⟨nofun, fun hactive => nomatch hactive⟩⟩
  exact hrun.2 htimely

/-- The ring runs dry behind the last sample only, or where the host has cut the burst off. -/
theorem sent_of_dry {before after : List Event} {s : State}
    (h : (system.restrict exactSpace).Run .init (before ++ .clock none :: after) s)
    (htimely : Timely (before ++ .clock none :: after)) :
    (Account.of before).aborted = true ∨
      (Account.of before).sent = waveform (Account.of before).burst := by
  obtain ⟨s₁, s₂, hbefore, hclock, -⟩ := System.Run.split h
  have hsince : (Account.of before).since < CIO_REFILL_MAX := htimely before none after rfl
  have hfed : Fed (Account.of before) s₁ := by
    refine fed_run hbefore fun before' bit after' hevents => ?_
    refine htimely before' bit (after' ++ .clock none :: after) ?_
    rw [hevents, List.append_assoc, List.cons_append]
  have haccounts := accounts_run hbefore.of_restrict
  obtain ⟨hstep, -⟩ := hclock
  generalize hbit : (none : Option Bool) = bit at hstep
  generalize hevent : Event.clock bit = event at hstep
  cases hstep with
  | clock =>
      rename_i engine ring edges main
      cases hevent
      have hring : ring = [] := List.head?_eq_none_iff.mp hbit.symm
      cases haborted : (Account.of before).aborted with
      | true => exact .inl rfl
      | false =>
          right
          have hover : engine.active = false ∧ main = .idle := by
            by_contra hbusy
            rw [not_and_or, Bool.not_eq_false] at hbusy
            have hbound : CIO_REFILL_MAX ≤ ring.length + (Account.of before).since :=
              hfed.busy rfl hbusy
            rw [hring, List.length_nil] at hbound
            omega
          obtain ⟨hinactive, rfl⟩ := hover
          have hput : (Account.of before).put ++ [] = waveform (Account.of before).burst :=
            haccounts.put_of_inactive hinactive haborted
          have hsent : (Account.of before).put = (Account.of before).sent ++ ring :=
            haccounts.ring_eq
          rw [List.append_nil, hsent, hring, List.append_nil] at hput
          exact hput
  | _ => cases hevent

end Burst

end YwdTnc
