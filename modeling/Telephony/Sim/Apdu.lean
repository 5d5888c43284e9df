import Telephony.Encoding
import Telephony.Strings

/-!
# The bytes that are sent to the SIM card

Three requests send bytes of the caller to the card. The caller says how many with an `int`, and a
setup function reads them with a loop. Two of the three setup functions keep the number in an
`unsigned int`.

## Main definitions

* `Sim.appendLoop` — the loop of the setup functions, with its index
* `Sim.ByteRequest` — the three requests, each with the message that carries given bytes
* `Sim.ByteRequest.SendsFirst` — the message carries the first bytes of the caller's array, and
  nothing is read behind it

## Main results

* `Sim.firstOf_eq_appendLoop` — the loop reads the elements in front of its bound, unless it leaves
  the array
* `Sim.ByteRequest.sendsFirst_iff` — from which numbers on that goes wrong
-/

namespace Telephony.Sim

open DBus Ledger

/-! ## The loop -/

/-- The loop that appends `bytes[i]` and counts `i` up, given how often it still goes round. To read
an element that the array does not have is undefined. -/
def appendLoop {α : Type} (bytes : List α) : ℕ → ℕ → Option (List α)
  | 0, _ => some []
  | count + 1, i => do
    let byte ← bytes[i]?
    let rest ← appendLoop bytes count (i + 1)
    some (byte :: rest)

section

variable {α : Type} {bytes : List α}

theorem appendLoop_of_le {count i : ℕ} (h : i + count ≤ bytes.length) :
    appendLoop bytes count i = some ((bytes.drop i).take count) := by
  induction count generalizing i with
  | zero => simp [appendLoop]
  | succ count ih =>
    have hi : i < bytes.length := by omega
    have hrest : i + 1 + count ≤ bytes.length := by omega
    rw [appendLoop, List.getElem?_eq_getElem hi, ih hrest, List.drop_eq_getElem_cons hi,
      List.take_succ_cons]
    rfl

/-- The loop that goes on behind the array reads an element there. -/
theorem appendLoop_of_lt {count i : ℕ} (hi : i ≤ bytes.length) (h : bytes.length < i + count) :
    appendLoop bytes count i = none := by
  induction count generalizing i with
  | zero => omega
  | succ count ih =>
    rw [appendLoop]
    by_cases hlt : i < bytes.length
    · rw [ih hlt (by omega)]
      cases bytes[i]? <;> rfl
    · rw [List.getElem?_eq_none (Nat.not_lt.mp hlt)]
      rfl

theorem firstOf_eq_appendLoop (n : ℤ) (bytes : List α) :
    firstOf n bytes = appendLoop bytes n.toNat 0 := by
  unfold firstOf
  split
  · rename_i hle
    rw [appendLoop_of_le (by omega), List.drop_zero]
  · rename_i hgt
    rw [appendLoop_of_lt (Nat.zero_le _) (by omega)]

theorem firstOf_eq_some_iff {n : ℤ} {read : List α} :
    firstOf n bytes = some read ↔ n ≤ bytes.length ∧ read = bytes.take n.toNat := by
  unfold firstOf
  split
  · rename_i hle
    have hle' : n ≤ bytes.length := by omega
    rw [Option.some_inj]
    exact ⟨fun h => ⟨hle', h.symm⟩, fun h => h.2.symm⟩
  · rename_i hgt
    have hgt' : ¬ n ≤ bytes.length := by omega
    simp [hgt']

end

/-! ## The requests -/

/-- The requests that send bytes of the caller. -/
inductive ByteRequest
  | openLogicalChannel
  | transmitApduLogicalChannel (sessionId : ℤ)
  | transmitApduBasicChannel
  deriving DecidableEq, Repr

namespace ByteRequest

/-- The call of the library. `foundSession` is what the block of parameters is found with. -/
def request (foundSession : ℤ) (bytes : List ℤ) (n : ℤ) : ByteRequest → Request
  | openLogicalChannel => .openLogicalChannel foundSession (some bytes) n
  | transmitApduLogicalChannel sessionId => .transmitApduLogicalChannel sessionId (some bytes) n
  | transmitApduBasicChannel => .transmitApduBasicChannel foundSession (some bytes) n

def member : ByteRequest → String
  | openLogicalChannel => "OpenLogicalChannel"
  | transmitApduLogicalChannel _ => "TransmitApduLogicalChannel"
  | transmitApduBasicChannel => "TransmitApduBasicChannel"

/-- What stands in the message in front of the bytes. -/
def session : ByteRequest → List Value
  | openLogicalChannel | transmitApduBasicChannel => []
  | transmitApduLogicalChannel sessionId => [.int32 sessionId]

/-- The message that carries the bytes. -/
def message (r : ByteRequest) (bytes : List ℤ) : BusMessage :=
  ⟨r.member, r.session ++ [.array (.fixed .byte) (bytes.map .byte)]⟩

/-- The bytes that the setup function reads. -/
def reads (n : ℤ) (bytes : List ℤ) : ByteRequest → Option (List ℤ)
  | openLogicalChannel => firstOf n bytes
  | transmitApduLogicalChannel _ | transmitApduBasicChannel => firstOfUnsigned n bytes

/-- Whoever calls, and whatever is granted and accepted: the request fails, or it has a message, and
that carries the first `n` bytes if there are as many. No bytes are the first `n` of a negative
`n`. -/
def SendsFirst (r : ByteRequest) (n : ℤ) (bytes : List ℤ) : Prop :=
  ∀ (c : Caller) (foundSession : ℤ) (granted : Block → Bool) (strdup : ℕ → Bool)
    (block : AsyncResult Payload) (accepts : Bool), ∃ sent,
      (r.request foundSession bytes n).put c granted strdup block accepts = some sent ∧
        ((∃ code, sent = .error code) ∨ ∃ message, sent = .ok (some message) ∧
          (n ≤ bytes.length → message = r.message (bytes.take n.toNat)))

section

variable {r : ByteRequest} {n foundSession : ℤ} {bytes : List ℤ} {c : Caller}
  {granted : Block → Bool} {strdup : ℕ → Bool} {block : AsyncResult Payload} {s : Submission}

/-- The message carries what the setup function reads. -/
theorem message_eq (h : (r.request foundSession bytes n).submit c = some (.ok s)) :
    s.message strdup (s.userData granted block) = (r.reads n bytes).map r.message := by
  have hbuilds : s.Builds granted block r.member
      (r.session.map .value ++ [.bytes (r.reads n bytes)]) := by
    cases r with
    | openLogicalChannel =>
      exact CallerData.builds_of_withProxy _ (Option.some.inj h) fun _ => ⟨rfl, rfl⟩
    | transmitApduLogicalChannel sessionId =>
      exact CallerData.builds_of_withProxy _ (Option.some.inj h) fun _ => ⟨rfl, rfl⟩
    | transmitApduBasicChannel =>
      exact CallerData.builds_of_withProxy _ (Option.some.inj h) fun _ => ⟨rfl, rfl⟩
  rw [hbuilds.message]
  cases r <;> cases reads n bytes _ <;> rfl

/-- A request always gets as far as its checks. -/
theorem exists_submit (r : ByteRequest) (n foundSession : ℤ) (bytes : List ℤ) (c : Caller) :
    ∃ submitted, (r.request foundSession bytes n).submit c = some submitted := by
  cases r <;> exact ⟨_, rfl⟩

/-- With all the memory that it asks for, a request that passes its checks gets its blocks. -/
theorem acquired_sample (r : ByteRequest) (n : ℤ) (bytes : List ℤ) :
    ∃ s, (r.request 0 bytes n).submit Request.sampleCaller = some (.ok s) ∧
      (acquire (fun _ => true) s.steps).2 = none := by
  cases r <;> exact ⟨_, rfl, rfl⟩

theorem sendsFirst_iff_reads :
    r.SendsFirst n bytes ↔
      ∃ read, r.reads n bytes = some read ∧ (n ≤ bytes.length → read = bytes.take n.toNat) := by
  constructor
  · intro h
    obtain ⟨s, hsubmit, hdone⟩ := r.acquired_sample n bytes
    obtain ⟨sent, hput, hsent⟩ :=
      h Request.sampleCaller 0 (fun _ => true) (fun _ => true) Request.sampleBlock true
    simp only [Request.put_of_acquired hsubmit hdone, if_true, message_eq hsubmit,
      Option.some_inj] at hput
    subst hput
    obtain ⟨code, hcode⟩ | ⟨message, hmessage, hfirst⟩ := hsent
    · contradiction
    · obtain ⟨read, hread, rfl⟩ := Option.map_eq_some_iff.mp (Except.ok.inj hmessage)
      refine ⟨read, hread, fun hn => ?_⟩
      -- two messages with the same arrays carry the same bytes
      have harray := congrArg BusMessage.args (hfirst hn)
      have hvalues : read.map Value.byte = (bytes.take n.toNat).map Value.byte := by
        simpa [message] using harray
      exact List.map_injective_iff.mpr (fun a b hab => by cases hab; rfl) hvalues
  · rintro ⟨read, hread, hfirst⟩ c foundSession granted strdup block accepts
    obtain ⟨submitted, hsubmit⟩ := r.exists_submit n foundSession bytes c
    obtain ⟨sent, hput, hfailed | ⟨s, rfl, -, rfl⟩⟩ :=
      Request.exists_put hsubmit granted strdup block accepts
    · exact ⟨sent, hput, .inl hfailed⟩
    · refine ⟨_, hput, .inr ⟨r.message read, ?_, fun hn => ?_⟩⟩
      · rw [message_eq hsubmit, hread, Option.map_some]
      · rw [hfirst hn]

/-- An `int` that is not negative is the same number in an `unsigned int`, and a negative one is far
too large. -/
theorem firstOfUnsigned_first_iff (hn : IsInt n) :
    (∃ read, firstOfUnsigned n bytes = some read ∧
        (n ≤ bytes.length → read = bytes.take n.toNat)) ↔
      0 ≤ n ∧ n ≤ bytes.length := by
  obtain ⟨hlow, hhigh⟩ := hn
  simp only [firstOfUnsigned, firstOf_eq_some_iff]
  constructor
  · rintro ⟨read, ⟨hle, rfl⟩, hfirst⟩
    by_cases hnonneg : 0 ≤ n
    · have hmod : n % 2 ^ 32 = n := Int.emod_eq_of_lt hnonneg (by omega)
      exact ⟨hnonneg, hmod ▸ hle⟩
    · -- the bytes in front of the large number are not those in front of the negative one
      have hsame := congrArg List.length (hfirst (by omega))
      simp only [List.length_take] at hsame
      omega
  · rintro ⟨hnonneg, hle⟩
    have hmod : n % 2 ^ 32 = n := Int.emod_eq_of_lt hnonneg (by omega)
    rw [hmod]
    exact ⟨_, ⟨hle, rfl⟩, fun _ => rfl⟩

/-- A request carries the first bytes of the caller exactly if the array has as many, and their
number is not a negative one that an `unsigned int` is to hold. -/
theorem sendsFirst_iff (r : ByteRequest) (bytes : List ℤ) (hn : IsInt n) :
    r.SendsFirst n bytes ↔ n ≤ bytes.length ∧ (0 ≤ n ∨ r = openLogicalChannel) := by
  rw [sendsFirst_iff_reads]
  cases r with
  | openLogicalChannel =>
    simp only [reads, firstOf_eq_some_iff, or_true, and_true]
    constructor
    · rintro ⟨read, ⟨hle, -⟩, -⟩
      exact hle
    · intro hle
      exact ⟨_, ⟨hle, rfl⟩, fun _ => rfl⟩
  | transmitApduLogicalChannel sessionId =>
    simp only [reads, firstOfUnsigned_first_iff hn, reduceCtorEq, or_false]
    exact and_comm
  | transmitApduBasicChannel =>
    simp only [reads, firstOfUnsigned_first_iff hn, reduceCtorEq, or_false]
    exact and_comm

end

/-- The array is left as soon as its only byte has been read. -/
theorem not_sendsFirst_negative : ¬ transmitApduBasicChannel.SendsFirst (-1) [0xa0] := by
  rw [sendsFirst_iff_reads]
  rintro ⟨read, hread, -⟩
  have hundefined : transmitApduBasicChannel.reads (-1) [0xa0] = none := by decide
  rw [hundefined] at hread
  contradiction

theorem sendsFirst_two :
    (transmitApduLogicalChannel 1).SendsFirst 2 [0x00, 0xa4, 0x04] :=
  (sendsFirst_iff _ _ (by decide)).mpr ⟨by decide, .inl (by decide)⟩

end ByteRequest

end Telephony.Sim
