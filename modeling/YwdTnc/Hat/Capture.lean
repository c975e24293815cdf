import YwdTnc.Hat.AX25AFSKRX
import YwdTnc.Interaction.Projection
import YwdTnc.Phy.StreamingDecoder

/-!
# What the host gets of a capture

The capture as a system of two parties: the timer interrupt, which may come between any two
accesses, and the main program, which starts and stops the capture and answers the host. An
account of a run (`Account`) notes the samples since the last START and the octets delivered
since then. However the interrupt falls between the accesses of a read, what has been
delivered and what is still in the ring are the octets of the samples in their order, but for
those that the modem has counted as dropped (`Accounts`).
-/

namespace YwdTnc

open Coding Interaction

namespace Capture

/-- What the main program is about. -/
inductive Main where
  | idle
  | reading (call : ReadCall)
  | reporting (call : StatusCall)
  deriving DecidableEq

structure State where
  rx : CAX25AFSKRX
  main : Main
  deriving DecidableEq

inductive Event where
  /-- The interrupt of the sample timer. -/
  | tick (bit : Byte)
  | start
  | stop
  | beginRead (maxLength : ℕ)
  | beginStatus (flags : Byte)
  | access
  | returned (out : Bytes)
  | reported (status : CaptureStatus)
  deriving DecidableEq

inductive Step : State → Event → State → Prop
  | tick {rx : CAX25AFSKRX} {main : Main} (bit : Byte) :
      Step ⟨rx, main⟩ (.tick bit) ⟨rx.sample bit, main⟩
  /-- Only an inactive capture is started. -/
  | start {rx : CAX25AFSKRX} (hinactive : rx.active = false) :
      Step ⟨rx, .idle⟩ .start ⟨rx.reset.start, .idle⟩
  | stop {rx : CAX25AFSKRX} : Step ⟨rx, .idle⟩ .stop ⟨rx.stop, .idle⟩
  | beginRead {rx : CAX25AFSKRX} (maxLength : ℕ) :
      Step ⟨rx, .idle⟩ (.beginRead maxLength) ⟨rx, .reading (.begin maxLength)⟩
  | beginStatus {rx : CAX25AFSKRX} (flags : Byte) :
      Step ⟨rx, .idle⟩ (.beginStatus flags) ⟨rx, .reporting ⟨flags, .flags⟩⟩
  | readAccess {rx rx' : CAX25AFSKRX} {call call' : ReadCall}
      (h : call.access rx = (rx', .inl call')) :
      Step ⟨rx, .reading call⟩ .access ⟨rx', .reading call'⟩
  | returned {rx rx' : CAX25AFSKRX} {call : ReadCall} {out : Bytes}
      (h : call.access rx = (rx', .inr out)) :
      Step ⟨rx, .reading call⟩ (.returned out) ⟨rx', .idle⟩
  | statusAccess {rx : CAX25AFSKRX} {call call' : StatusCall} (h : call.access rx = .inl call') :
      Step ⟨rx, .reporting call⟩ .access ⟨rx, .reporting call'⟩
  | reported {rx : CAX25AFSKRX} {call : StatusCall} {status : CaptureStatus}
      (h : call.access rx = .inr status) :
      Step ⟨rx, .reporting call⟩ (.reported status) ⟨rx, .idle⟩

def system : System State Event where
  initial s := s = ⟨.init, .idle⟩
  step := Step

/-! ### Accounts of a run -/

/-- What a run has shown since the last START: the samples, the octets delivered, how many
the host has been promised by a status, and how many it has asked for. -/
structure Account where
  active : Bool
  bits : List Bool
  delivered : Bytes
  promised : ℕ
  asked : ℕ
  deriving DecidableEq

namespace Account

def init : Account := ⟨false, [], [], 0, 0⟩

def note (account : Account) : Event → Account
  | .tick bit =>
      if account.active then { account with bits := account.bits ++ [bit.getLsbD 0] } else account
  | .start => { account with active := true, bits := [], delivered := [], promised := 0 }
  | .stop => { account with active := false }
  | .beginRead maxLength => { account with asked := maxLength }
  | .beginStatus _ | .access => account
  | .returned out =>
      { account with
        delivered := account.delivered ++ out, promised := account.promised - out.length }
  | .reported status => { account with promised := status.available }

theorem note_tick {account : Account} (h : account.active = true) (bit : Byte) :
    account.note (.tick bit) = { account with bits := account.bits ++ [bit.getLsbD 0] } :=
  if_pos h

theorem note_tick_inactive {account : Account} (h : account.active = false) (bit : Byte) :
    account.note (.tick bit) = account :=
  if_neg (Bool.eq_false_iff.mp h)

def of (events : List Event) : Account := events.foldl note .init

theorem of_append (events : List Event) (event : Event) :
    of (events ++ [event]) = (of events).note event :=
  List.foldl_append

end Account

/-! ### Octets -/

/-- Bits from the highest place on. -/
def packOctet (bits : List Bool) : Byte :=
  bits.zipIdx.foldl
    (fun octet (bit, i) => if bit then octet ||| BitVec.ofNat 8 (0x80 >>> i) else octet) 0

theorem packOctet_append (bits : List Bool) (bit : Bool) :
    packOctet (bits ++ [bit]) =
      if bit then packOctet bits ||| BitVec.ofNat 8 (0x80 >>> bits.length)
      else packOctet bits := by
  rw [packOctet, List.zipIdx_append, List.foldl_append, Nat.zero_add]
  rfl

/-- The host reads the samples of an octet back. -/
theorem BYTE_BITS_packOctet {bits : List Bool} (h : bits.length = 8) :
    BYTE_BITS (packOctet bits) = bits := by
  have hall : ∀ b₀ b₁ b₂ b₃ b₄ b₅ b₆ b₇ : Bool,
      BYTE_BITS (packOctet [b₀, b₁, b₂, b₃, b₄, b₅, b₆, b₇]) =
        [b₀, b₁, b₂, b₃, b₄, b₅, b₆, b₇] := by
    decide
  match bits, h with
  | [b₀, b₁, b₂, b₃, b₄, b₅, b₆, b₇], _ => exact hall b₀ b₁ b₂ b₃ b₄ b₅ b₆ b₇

theorem low_bit_iff (bit : Byte) : bit &&& 0x01 ≠ 0 ↔ bit.getLsbD 0 = true := by
  revert bit
  decide

/-! ### What the interrupt does -/

/-- Of the samples `bits` the octets `taken` have left the ring, `lost` ones found it full. -/
structure Packed (bits : List Bool) (taken : Bytes) (rx : CAX25AFSKRX) (octets : Bytes)
    (pending : List Bool) (lost : ℕ) : Prop where
  bits_eq : octets.flatMap BYTE_BITS ++ pending = bits
  pending_length : pending.length = rx.partialBits
  partialBits_lt : rx.partialBits < 8
  partialOctet_eq : rx.partialOctet = packOctet pending
  stored : (taken ++ rx.buffer.contents).Sublist octets
  lost_eq : (taken ++ rx.buffer.contents).length + lost = octets.length
  dropped : rx.droppedBytes = min lost 65535

theorem packed_nil {rx : CAX25AFSKRX} (hempty : rx.buffer.tail = rx.buffer.head)
    (hoctet : rx.partialOctet = 0) (hbits : rx.partialBits = 0) (hdropped : rx.droppedBytes = 0) :
    Packed [] [] rx [] [] 0 where
  bits_eq := rfl
  pending_length := hbits.symm
  partialBits_lt := by omega
  partialOctet_eq := hoctet
  stored := by rw [List.nil_append, SpscRing.contents_eq_nil_iff.mpr hempty]
  lost_eq := by rw [List.nil_append, SpscRing.contents_eq_nil_iff.mpr hempty]; rfl
  dropped := hdropped

/-- `sample` in an active capture, before the octet is stored. -/
def takeBit (rx : CAX25AFSKRX) (bit : Byte) : CAX25AFSKRX :=
  { rx with
    samples := rx.samples + 1
    partialOctet :=
      if bit.getLsbD 0 then rx.partialOctet ||| BitVec.ofNat 8 (0x80 >>> rx.partialBits)
      else rx.partialOctet
    partialBits := rx.partialBits + 1 }

theorem sample_eq {rx : CAX25AFSKRX} (hactive : rx.active = true) (bit : Byte) :
    rx.sample bit =
      if rx.partialBits + 1 < 8 then takeBit rx bit else (takeBit rx bit).storeOctet := by
  unfold CAX25AFSKRX.sample takeBit
  simp only [hactive, if_true, low_bit_iff]
  cases bit.getLsbD 0 <;> rfl

theorem sample_of_inactive {rx : CAX25AFSKRX} (hactive : rx.active = false) (bit : Byte) :
    rx.sample bit = rx := by
  rw [CAX25AFSKRX.sample, hactive]
  rfl

theorem storeOctet_full {rx : CAX25AFSKRX} (hfull : rx.buffer.Full) :
    rx.storeOctet = { rx with
      droppedBytes := min (rx.droppedBytes + 1) (max rx.droppedBytes 65535)
      partialOctet := 0
      partialBits := 0 } := by
  unfold CAX25AFSKRX.storeOctet
  simp only [if_pos hfull]
  congr 1
  split <;> omega

theorem storeOctet_push {rx : CAX25AFSKRX} (hroom : ¬ rx.buffer.Full) :
    rx.storeOctet = { rx with
      buffer := rx.buffer.push rx.partialOctet, partialOctet := 0, partialBits := 0 } := by
  unfold CAX25AFSKRX.storeOctet
  simp only [if_neg hroom]

/-- An interrupt leaves the ring or appends to it. -/
theorem sample_buffer (rx : CAX25AFSKRX) (bit : Byte) :
    (rx.sample bit).buffer = rx.buffer ∨
      ∃ octet, (rx.sample bit).buffer = rx.buffer.push octet ∧ ¬ rx.buffer.Full := by
  cases hactive : rx.active with
  | false => exact .inl (by rw [sample_of_inactive hactive])
  | true =>
      rw [sample_eq hactive]
      split
      · exact .inl rfl
      · by_cases hfull : (takeBit rx bit).buffer.Full
        · exact .inl (by rw [storeOctet_full hfull]; rfl)
        · exact .inr ⟨_, by rw [storeOctet_push hfull]; rfl, hfull⟩

theorem sample_active (rx : CAX25AFSKRX) (bit : Byte) : (rx.sample bit).active = rx.active := by
  cases hactive : rx.active with
  | false => rw [sample_of_inactive hactive, hactive]
  | true =>
      rw [sample_eq hactive]
      split
      · exact hactive
      · by_cases hfull : (takeBit rx bit).buffer.Full
        · rw [storeOctet_full hfull]
          exact hactive
        · rw [storeOctet_push hfull]
          exact hactive

theorem sample_samples {rx : CAX25AFSKRX} (hactive : rx.active = true) (bit : Byte) :
    (rx.sample bit).samples = rx.samples + 1 := by
  rw [sample_eq hactive]
  split
  · rfl
  · by_cases hfull : (takeBit rx bit).buffer.Full
    · rw [storeOctet_full hfull]
      rfl
    · rw [storeOctet_push hfull]
      rfl

/-- A sample joins the pending bits; the eighth makes an octet of them, which is stored or
counted as lost. -/
theorem Packed.sample {bits : List Bool} {taken : Bytes} {rx : CAX25AFSKRX} {octets : Bytes}
    {pending : List Bool} {lost : ℕ} (h : Packed bits taken rx octets pending lost)
    (hactive : rx.active = true) (bit : Byte) :
    ∃ octets' pending' lost',
      Packed (bits ++ [bit.getLsbD 0]) taken (rx.sample bit) octets' pending' lost' := by
  have hoctet : (takeBit rx bit).partialOctet = packOctet (pending ++ [bit.getLsbD 0]) := by
    rw [packOctet_append, h.pending_length, ← h.partialOctet_eq]
    rfl
  have hbits : octets.flatMap BYTE_BITS ++ (pending ++ [bit.getLsbD 0]) =
      bits ++ [bit.getLsbD 0] := by
    rw [← List.append_assoc, h.bits_eq]
  have hlength : (pending ++ [bit.getLsbD 0]).length = rx.partialBits + 1 := by
    rw [List.length_append, h.pending_length, List.length_singleton]
  rw [sample_eq hactive]
  split
  case isTrue hshort =>
    exact ⟨octets, _, lost, hbits, hlength, hshort, hoctet, h.stored, h.lost_eq, h.dropped⟩
  case isFalse hwhole =>
    have hlast : (pending ++ [bit.getLsbD 0]).length = 8 := by
      have hshort := h.partialBits_lt
      omega
    have hread : (octets ++ [packOctet (pending ++ [bit.getLsbD 0])]).flatMap BYTE_BITS ++ [] =
        bits ++ [bit.getLsbD 0] := by
      rw [List.append_nil, List.flatMap_append, List.flatMap_singleton,
        BYTE_BITS_packOctet hlast, hbits]
    by_cases hfull : (takeBit rx bit).buffer.Full
    · rw [storeOctet_full hfull]
      refine ⟨_, [], lost + 1, hread, rfl, Nat.zero_lt_succ 7, rfl,
        h.stored.trans (List.sublist_append_left _ _), ?_, ?_⟩
      · have hlost := h.lost_eq
        simp only [takeBit, List.length_append, List.length_singleton] at hlost ⊢
        omega
      · have hdropped : (takeBit rx bit).droppedBytes = min lost 65535 := h.dropped
        dsimp only
        rw [hdropped]
        omega
    · rw [storeOctet_push hfull]
      have hcontents : ((takeBit rx bit).buffer.push (takeBit rx bit).partialOctet).contents =
          rx.buffer.contents ++ [packOctet (pending ++ [bit.getLsbD 0])] := by
        rw [SpscRing.contents_push _ hfull, hoctet]
        rfl
      refine ⟨_, [], lost, hread, rfl, Nat.zero_lt_succ 7, rfl, ?_, ?_, h.dropped⟩
      · dsimp only
        rw [hcontents, ← List.append_assoc]
        exact h.stored.append (List.Sublist.refl _)
      · have hlost := h.lost_eq
        dsimp only
        rw [hcontents]
        simp only [List.length_append, List.length_singleton] at hlost ⊢
        omega

/-! ### What the main program does -/

/-- What a read has found with its last access is still so. -/
def CurrentRead (rx : CAX25AFSKRX) (call : ReadCall) : Prop :=
  match call.point with
  | .test => True
  | .head head => rx.buffer.tail ≠ head → rx.buffer.tail ≠ rx.buffer.head
  | .tail tail => tail = rx.buffer.tail ∧ tail ≠ rx.buffer.head
  | .octet tail octet =>
      tail = rx.buffer.tail ∧ tail ≠ rx.buffer.head ∧ octet = rx.buffer.front

theorem tail_ne_head_sample {rx : CAX25AFSKRX} (h : rx.buffer.tail ≠ rx.buffer.head) (bit : Byte) :
    (rx.sample bit).buffer.tail = rx.buffer.tail ∧
      (rx.sample bit).buffer.tail ≠ (rx.sample bit).buffer.head ∧
      (rx.sample bit).buffer.front = rx.buffer.front := by
  rcases sample_buffer rx bit with hsame | ⟨octet, hpush, hroom⟩
  · rw [hsame]
    exact ⟨rfl, h, rfl⟩
  · rw [hpush]
    exact ⟨rfl, fun heq => hroom heq.symm, SpscRing.front_push octet h⟩

/-- An interrupt takes nothing away from what a read has found. -/
theorem CurrentRead.sample {rx : CAX25AFSKRX} {call : ReadCall} (h : CurrentRead rx call)
    (bit : Byte) : CurrentRead (rx.sample bit) call := by
  have htail : (rx.sample bit).buffer.tail = rx.buffer.tail := by
    rcases sample_buffer rx bit with hsame | ⟨octet, hpush, -⟩
    · rw [hsame]
    · rw [hpush]
      rfl
  unfold CurrentRead at h ⊢
  rcases call with ⟨maxLength, out, _ | head | tail | ⟨tail, octet⟩⟩
  · trivial
  · intro hne
    rw [htail] at hne
    exact (tail_ne_head_sample (h hne) bit).2.1
  · obtain ⟨rfl, hne⟩ := h
    obtain ⟨-, hne', -⟩ := tail_ne_head_sample hne bit
    exact ⟨htail.symm, by rwa [htail] at hne'⟩
  · obtain ⟨rfl, hne, rfl⟩ := h
    obtain ⟨-, hne', hfront⟩ := tail_ne_head_sample hne bit
    exact ⟨htail.symm, by rwa [htail] at hne', hfront.symm⟩

/-- An access moves the front of the ring to the octets that have been read, or nothing. -/
theorem readAccess_cases {rx rx' : CAX25AFSKRX} {call call' : ReadCall}
    (hcurrent : CurrentRead rx call) (h : call.access rx = (rx', .inl call')) :
    CurrentRead rx' call' ∧
      (rx' = rx ∧ call'.out = call.out ∨
        rx.buffer.contents = rx.buffer.front :: rx'.buffer.contents ∧
          rx' = { rx with buffer := rx.buffer.pop } ∧
          call'.out = call.out ++ [rx.buffer.front]) := by
  rcases call with ⟨maxLength, out, _ | head | tail | ⟨tail, octet⟩⟩
  · simp only [ReadCall.access] at h
    split at h
    · obtain ⟨rfl, rfl⟩ := h
      exact ⟨id, .inl ⟨rfl, rfl⟩⟩
    · cases h
  · simp only [ReadCall.access] at h
    split at h
    · cases h
    case isFalse hne =>
      obtain ⟨rfl, rfl⟩ := h
      exact ⟨⟨rfl, hcurrent hne⟩, .inl ⟨rfl, rfl⟩⟩
  · simp only [ReadCall.access] at h
    obtain ⟨rfl, hne⟩ := hcurrent
    obtain ⟨rfl, rfl⟩ := h
    exact ⟨⟨rfl, hne, rfl⟩, .inl ⟨rfl, rfl⟩⟩
  · simp only [ReadCall.access] at h
    obtain ⟨rfl, hne, rfl⟩ := hcurrent
    obtain ⟨rfl, rfl⟩ := h
    exact ⟨trivial, .inr ⟨SpscRing.contents_pop hne, rfl, rfl⟩⟩

theorem readReturn {rx rx' : CAX25AFSKRX} {call : ReadCall} {out : Bytes}
    (h : call.access rx = (rx', .inr out)) : rx' = rx ∧ out = call.out := by
  rcases call with ⟨maxLength, out', _ | head | tail | ⟨tail, octet⟩⟩
  · simp only [ReadCall.access] at h
    split at h
    · cases h
    · cases h
      exact ⟨rfl, rfl⟩
  · simp only [ReadCall.access] at h
    split at h
    · cases h
      exact ⟨rfl, rfl⟩
    · cases h
  · cases h
  · cases h

theorem Packed.readAccess {bits : List Bool} {delivered : Bytes} {rx rx' : CAX25AFSKRX}
    {call call' : ReadCall} {octets : Bytes} {pending : List Bool} {lost : ℕ}
    (h : Packed bits (delivered ++ call.out) rx octets pending lost)
    (hcurrent : CurrentRead rx call) (haccess : call.access rx = (rx', .inl call')) :
    Packed bits (delivered ++ call'.out) rx' octets pending lost := by
  obtain ⟨-, ⟨rfl, hout⟩ | ⟨hcontents, hrx, hout⟩⟩ := readAccess_cases hcurrent haccess
  · rwa [hout]
  · have hmoved : delivered ++ call'.out ++ rx'.buffer.contents =
        delivered ++ call.out ++ rx.buffer.contents := by
      rw [hcontents, hout]
      simp only [List.append_assoc, List.singleton_append]
    obtain ⟨hbits, hlength, hlt, hoctet, hstored, hlost, hdropped⟩ := h
    refine ⟨hbits, ?_, ?_, ?_, by rwa [hmoved], by rwa [hmoved], ?_⟩
    · rw [hrx]
      exact hlength
    · rw [hrx]
      exact hlt
    · rw [hrx]
      exact hoctet
    · rw [hrx]
      exact hdropped

/-! ### Whole runs -/

/-- The octets that a read has taken and not yet returned. -/
def Main.held : Main → Bytes
  | .reading call => call.out
  | .idle | .reporting _ => []

def Main.Current (rx : CAX25AFSKRX) : Main → Prop
  | .reading call => CurrentRead rx call
  | _ => True

structure Accounts (account : Account) (s : State) : Prop where
  active : s.rx.active = account.active
  samples : s.rx.samples = BitVec.ofNat 32 account.bits.length
  current : s.main.Current s.rx
  packed : ∃ octets pending lost,
    Packed account.bits (account.delivered ++ s.main.held) s.rx octets pending lost

theorem accounts_init : Accounts .init ⟨.init, .idle⟩ where
  active := rfl
  samples := rfl
  current := trivial
  packed := ⟨[], [], 0, packed_nil rfl rfl rfl rfl⟩

theorem Accounts.step {account : Account} {s s' : State} {event : Event}
    (h : Accounts account s) (hstep : Step s event s') : Accounts (account.note event) s' := by
  obtain ⟨hactive, hsamples, hcurrent, octets, pending, lost, hpacked⟩ := h
  cases hstep with
  | @tick rx main bit =>
      have hcurrent' : main.Current (rx.sample bit) := by
        cases main with
        | reading call => exact CurrentRead.sample hcurrent bit
        | _ => trivial
      cases hon : account.active with
      | false =>
          have hoff : rx.active = false := hactive.trans hon
          rw [sample_of_inactive hoff, Account.note_tick_inactive hon]
          exact ⟨hactive, hsamples, hcurrent, _, _, _, hpacked⟩
      | true =>
          have hon' : rx.active = true := hactive.trans hon
          rw [Account.note_tick hon]
          refine ⟨(sample_active rx bit).trans hactive, ?_, hcurrent', hpacked.sample hon' bit⟩
          have hsamples : rx.samples = BitVec.ofNat 32 account.bits.length := hsamples
          dsimp only
          rw [sample_samples hon', hsamples, List.length_append, List.length_singleton,
            BitVec.ofNat_add]
          rfl
  | start => exact ⟨rfl, rfl, trivial, _, _, _, packed_nil rfl rfl rfl rfl⟩
  | stop =>
      obtain ⟨hbits, hlength, hlt, hoctet, hstored, hlost, hdropped⟩ := hpacked
      exact ⟨rfl, hsamples, trivial, octets, pending, lost, hbits, hlength, hlt, hoctet, hstored,
        hlost, hdropped⟩
  | beginRead => exact ⟨hactive, hsamples, trivial, _, _, _, hpacked⟩
  | beginStatus => exact ⟨hactive, hsamples, trivial, _, _, _, hpacked⟩
  | @readAccess rx rx' call call' haccess =>
      have hpacked' := Packed.readAccess hpacked hcurrent haccess
      obtain ⟨hcurrent', ⟨rfl, -⟩ | ⟨-, rfl, -⟩⟩ := readAccess_cases hcurrent haccess
      · exact ⟨hactive, hsamples, hcurrent', _, _, _, hpacked'⟩
      · exact ⟨hactive, hsamples, hcurrent', _, _, _, hpacked'⟩
  | returned haccess =>
      obtain ⟨rfl, rfl⟩ := readReturn haccess
      refine ⟨hactive, hsamples, trivial, octets, pending, lost, ?_⟩
      rw [Main.held, List.append_nil]
      exact hpacked
  | statusAccess => exact ⟨hactive, hsamples, trivial, _, _, _, hpacked⟩
  | reported => exact ⟨hactive, hsamples, trivial, _, _, _, hpacked⟩

theorem accounts_run {events : List Event} {s : State}
    (h : system.Run ⟨.init, .idle⟩ events s) : Accounts (Account.of events) s := by
  refine System.Run.traced_nil (I := fun events s => Accounts (Account.of events) s)
    (fun events s event s' hinv hstep => ?_) h accounts_init
  rw [Account.of_append]
  exact hinv.step hstep

/-! ### What a status promises -/

/-- The octets that a status has shown are there until the host reads them: a read that finds
the ring empty has already returned what was promised. -/
def Keeps (account : Account) (s : State) : Prop :=
  match s.main with
  | .idle => account.promised ≤ s.rx.buffer.count
  | .reading call =>
      account.promised ≤ call.out.length + s.rx.buffer.count ∧ call.maxLength = account.asked ∧
        call.out.length ≤ call.maxLength ∧
        match call.point with
        | .test => True
        | .head head => call.out.length < call.maxLength ∧
            (s.rx.buffer.tail = head → account.promised ≤ call.out.length)
        | .tail _ | .octet _ _ => call.out.length < call.maxLength
  | .reporting call =>
      account.promised ≤ s.rx.buffer.count ∧
        match call.point with
        | .flags => True
        | .head head => availableOf head s.rx.buffer.tail ≤ s.rx.buffer.count
        | .available available | .samples available _ => available ≤ s.rx.buffer.count

theorem count_le_sample (rx : CAX25AFSKRX) (bit : Byte) :
    rx.buffer.count ≤ (rx.sample bit).buffer.count ∧
      (rx.sample bit).buffer.tail = rx.buffer.tail := by
  rcases sample_buffer rx bit with hsame | ⟨octet, hpush, hroom⟩
  · rw [hsame]
    exact ⟨le_refl _, rfl⟩
  · rw [hpush, SpscRing.count_push _ hroom]
    exact ⟨Nat.le_succ _, rfl⟩

theorem Keeps.tick {account : Account} {rx : CAX25AFSKRX} {main : Main}
    (h : Keeps account ⟨rx, main⟩) (bit : Byte) :
    Keeps (account.note (.tick bit)) ⟨rx.sample bit, main⟩ := by
  obtain ⟨hcount, htail⟩ := count_le_sample rx bit
  have hpromised : (account.note (.tick bit)).promised = account.promised := by
    rw [Account.note]
    split <;> rfl
  have hasked : (account.note (.tick bit)).asked = account.asked := by
    rw [Account.note]
    split <;> rfl
  unfold Keeps at h ⊢
  simp only [hpromised, hasked, htail]
  cases main with
  | idle => exact le_trans h hcount
  | reading call =>
      obtain ⟨hroom, hmax, hlength, hpoint⟩ := h
      exact ⟨le_trans hroom (Nat.add_le_add_left hcount _), hmax, hlength, hpoint⟩
  | reporting call =>
      obtain ⟨hroom, hpoint⟩ := h
      refine ⟨le_trans hroom hcount, ?_⟩
      rcases call with ⟨flags, _ | head | available | ⟨available, samples⟩⟩
      · trivial
      · exact le_trans hpoint hcount
      · exact le_trans hpoint hcount
      · exact le_trans hpoint hcount

theorem availableOf_eq (rx : CAX25AFSKRX) :
    availableOf rx.buffer.head rx.buffer.tail = rx.buffer.count := rfl

theorem Keeps.readAccess {account : Account} {rx rx' : CAX25AFSKRX} {call call' : ReadCall}
    (h : Keeps account ⟨rx, .reading call⟩) (hcurrent : CurrentRead rx call)
    (haccess : call.access rx = (rx', .inl call')) : Keeps account ⟨rx', .reading call'⟩ := by
  obtain ⟨hroom, hmax, hlength, hpoint⟩ := h
  rcases call with ⟨maxLength, out, _ | head | tail | ⟨tail, octet⟩⟩
  · simp only [ReadCall.access] at haccess
    split at haccess
    case isTrue hmore =>
      cases haccess
      refine ⟨hroom, hmax, hlength, hmore, fun hempty => ?_⟩
      have hnone : rx.buffer.count = 0 := SpscRing.count_eq_zero_iff.mpr hempty
      rw [hnone] at hroom
      exact hroom
    case isFalse => cases haccess
  · simp only [ReadCall.access] at haccess
    split at haccess
    · cases haccess
    · cases haccess
      exact ⟨hroom, hmax, hlength, hpoint.1⟩
  · cases haccess
    exact ⟨hroom, hmax, hlength, hpoint⟩
  · obtain ⟨rfl, hne, rfl⟩ := hcurrent
    cases haccess
    have hcount := SpscRing.count_pop hne
    refine ⟨?_, hmax, ?_, trivial⟩
    · change account.promised ≤ (out ++ [rx.buffer.front]).length + rx.buffer.pop.count
      change account.promised ≤ out.length + rx.buffer.count at hroom
      rw [List.length_append, List.length_singleton]
      omega
    · change (out ++ [rx.buffer.front]).length ≤ maxLength
      change out.length < maxLength at hpoint
      rw [List.length_append, List.length_singleton]
      omega

/-- A read returns what has been promised, up to what it was asked for. -/
theorem Keeps.returned {account : Account} {rx rx' : CAX25AFSKRX} {call : ReadCall} {out : Bytes}
    (h : Keeps account ⟨rx, .reading call⟩) (haccess : call.access rx = (rx', .inr out)) :
    min account.asked account.promised ≤ out.length ∧ out.length ≤ account.asked := by
  obtain ⟨hroom, hmax, hlength, hpoint⟩ := h
  rcases call with ⟨maxLength, out', _ | head | tail | ⟨tail, octet⟩⟩
  · simp only [ReadCall.access] at haccess
    split at haccess
    · cases haccess
    case isFalse hfull =>
      cases haccess
      change maxLength = account.asked at hmax
      change out.length ≤ maxLength at hlength
      omega
  · simp only [ReadCall.access] at haccess
    split at haccess
    case isTrue hempty =>
      cases haccess
      have hdone := hpoint.2 hempty
      change maxLength = account.asked at hmax
      change out.length ≤ maxLength at hlength
      change account.promised ≤ out.length at hdone
      omega
    · cases haccess
  · cases haccess
  · cases haccess

theorem Keeps.reported {account : Account} {rx : CAX25AFSKRX} {call : StatusCall}
    {status : CaptureStatus} (h : Keeps account ⟨rx, .reporting call⟩)
    (haccess : call.access rx = .inr status) : status.available ≤ rx.buffer.count := by
  rcases call with ⟨flags, _ | head | available | ⟨available, samples⟩⟩
  · cases haccess
  · cases haccess
  · cases haccess
  · cases haccess
    exact h.2

theorem Keeps.statusAccess {account : Account} {rx : CAX25AFSKRX} {call call' : StatusCall}
    (h : Keeps account ⟨rx, .reporting call⟩) (haccess : call.access rx = .inl call') :
    Keeps account ⟨rx, .reporting call'⟩ := by
  obtain ⟨hroom, hpoint⟩ := h
  rcases call with ⟨flags, _ | head | available | ⟨available, samples⟩⟩
  · cases haccess
    exact ⟨hroom, (availableOf_eq rx).le⟩
  · cases haccess
    exact ⟨hroom, hpoint⟩
  · cases haccess
    exact ⟨hroom, hpoint⟩
  · cases haccess

theorem Keeps.step {account : Account} {s s' : State} {event : Event} (h : Keeps account s)
    (hcurrent : s.main.Current s.rx) (hstep : Step s event s') :
    Keeps (account.note event) s' := by
  cases hstep with
  | tick bit => exact h.tick bit
  | start => exact Nat.zero_le _
  | stop => exact h
  | beginRead maxLength => exact ⟨(Nat.zero_add _).symm ▸ h, rfl, Nat.zero_le _, trivial⟩
  | beginStatus flags => exact ⟨h, trivial⟩
  | readAccess haccess => exact h.readAccess hcurrent haccess
  | returned haccess =>
      obtain ⟨hroom, -, -, -⟩ := h
      obtain ⟨rfl, rfl⟩ := readReturn haccess
      exact Nat.sub_le_iff_le_add'.mpr hroom
  | statusAccess haccess => exact h.statusAccess haccess
  | reported haccess => exact h.reported haccess

theorem keeps_run {events : List Event} {s : State} (h : system.Run ⟨.init, .idle⟩ events s) :
    Keeps (Account.of events) s := by
  have hrun := System.Run.traced_nil
    (I := fun events s => Accounts (Account.of events) s ∧ Keeps (Account.of events) s)
    (fun events s event s' hinv hstep => by
      rw [Account.of_append]
      exact ⟨hinv.1.step hstep, hinv.2.step hinv.1.current hstep⟩)
    h ⟨accounts_init, Nat.zero_le _⟩
  exact hrun.2

end Capture

end YwdTnc
