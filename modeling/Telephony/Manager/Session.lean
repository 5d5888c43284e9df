import Telephony.Machine
import Telephony.Manager.Register

/-!
# Registrations over time

A session is a sequence of calls of `tapi_register` and `tapi_unregister`, on any contexts,
with the signals that arrive between them. The bus library numbers the watches it grants, and
never gives a number twice.

What a registration promises is that it watches exactly the signals that carry its indication,
or nothing if it fails, and that it can be taken back. Three things break the promise. An
indication that nothing carries is answered with 0. The emergency list takes two watches, one
of which may be refused, and only one of which can be named to `tapi_unregister`. And the
emergency list is registered through pointers that have not been checked.

## Main definitions

* `Manager.WatchIds` — how the bus library numbers watches
* `Manager.Session` — the live watches, and the registrations made so far
* `Manager.Lawful` — what a call promises
* `Manager.Sound` — the calls that keep the promise

## Main results

* `Manager.lawful_iff_sound` — in every session the promise is kept exactly if every call is
  sound
-/

namespace Telephony.Manager

open Machine

variable {δ : Type}

/-! ## Watch numbers -/

/-- The bus library's choice of the next watch id, given those it has granted. -/
structure WatchIds where
  next : List ℕ → ℕ
  pos : ∀ used, 0 < next used
  fresh : ∀ used, next used ∉ used

/-- Counting upwards. -/
def WatchIds.counter : WatchIds where
  next used := used.foldr max 0 + 1
  pos _ := Nat.succ_pos _
  fresh used := by
    have bounded : ∀ i ∈ used, i ≤ used.foldr max 0 := by
      induction used with
      | nil => simp
      | cons j used ih =>
        intro i hi
        rcases List.mem_cons.mp hi with rfl | hi
        · exact Nat.le_max_left _ _
        · exact Nat.le_trans (ih i hi) (Nat.le_max_right _ _)
    intro hmem
    have hle := bounded _ hmem
    omega

/-! ## The session -/

/-- What the allocations of a registrar and its request for a watch meet. -/
structure Supply (δ : Type) where
  handler : Bool
  result : Option (AsyncResult δ)
  watch : Bool

namespace Supply

/-- The surroundings of a registrar that would be granted `id`. -/
def env (supply : Supply δ) (id : ℕ) : WatchEnv δ :=
  ⟨supply.handler, supply.result, if supply.watch then id else 0⟩

def granted (supply : Supply δ) : Bool :=
  supply.handler && supply.result.isSome && supply.watch

theorem granted_env {supply : Supply δ} {id : ℕ} (h : 0 < id) :
    (supply.env id).granted = supply.granted := by
  cases hwatch : supply.watch <;>
    simp [env, granted, WatchEnv.granted, hwatch, Nat.pos_iff_ne_zero.mp h]

/-- A watch that was granted has the id that was on offer. -/
theorem id_of_grants {supply : Supply δ} {id : ℕ} {context : Option DbusContext}
    {record : AsyncResult δ → AsyncResult δ} {pHandle : Ptr} {spec : SignalSpec} {w : Watch δ}
    {r : Registered δ} (h : Grants (supply.env id) context record pHandle spec r)
    (hw : w ∈ r.watches) : w.id = id := by
  obtain ⟨hid, pos⟩ := h.id_eq w hw
  rw [hid]
  simp only [env] at pos ⊢
  split at pos
  · rw [if_pos ‹_›]
  · omega

end Supply

/-- A registration that `tapi_register` has returned an id for. -/
structure Registration where
  id : ℕ
  msg : IndicationMsg
  made : List ℕ
  deriving DecidableEq, Repr

/-- The watches of the bus library, and the registrations in force and taken back. `granted`
lists the ids that are used up. -/
structure Session (δ : Type) where
  live : List (Watch δ)
  granted : List ℕ
  registrations : List Registration
  closed : List Registration

def Session.start : Session δ := ⟨[], [], [], []⟩

/-- An arriving signal. -/
structure Signal where
  path : String
  interface : Interface
  member : String
  deriving DecidableEq, Repr

/-- The watch is for this signal. -/
def Signal.reaches (sig : Signal) (w : Watch δ) : Bool :=
  sig.path = w.spec.path ∧ sig.interface = w.spec.interface ∧ sig.member = w.spec.member

inductive Event (δ : Type)
  | register (context : Option DbusContext) (slotId : ℤ) (msg : IndicationMsg)
      (userObj pHandle : Ptr) (first second : Supply δ)
  | unregister (context : Option DbusContext) (watchId : ℤ)
  | signal (sig : Signal)

inductive Output (δ : Type)
  | code (n : ℤ)
  | invoked (w : Watch δ)

namespace Session

variable (cfg : Config) (ids : WatchIds)

/-- The id that the first watch of a call would be granted. -/
def firstId (s : Session δ) : ℕ := ids.next s.granted

/-- The id that the second watch of a call would be granted. -/
def secondId (s : Session δ) : ℕ := ids.next (s.firstId ids :: s.granted)

/-- The state after `tapi_register` for `msg` has returned `r`. -/
def afterRegister (s : Session δ) (msg : IndicationMsg) (r : Registered δ) : Session δ where
  live := s.live ++ r.watches
  granted := s.secondId ids :: s.firstId ids :: s.granted
  registrations :=
    if 0 < r.code then ⟨r.code.toNat, msg, r.watches.map (·.id)⟩ :: s.registrations
    else s.registrations
  closed := s.closed

/-- The state after `tapi_unregister` of `watchId` has returned `code`. -/
def afterUnregister (s : Session δ) (watchId : ℤ) (code : ℤ) (live : List (Watch δ)) :
    Session δ :=
  if code = ok then
    { s with
      live := live
      registrations := s.registrations.filter fun r => r.id ≠ watchId
      closed := s.registrations.filter (fun r => r.id = watchId) ++ s.closed }
  else { s with live := live }

/-- A call, or a signal that makes the bus library invoke every watch it reaches. -/
def step : Step (Session δ) (Event δ) (Output δ)
  | s, .register context slotId msg userObj pHandle first second =>
    (tapiRegister cfg (first.env (s.firstId ids)) context slotId msg userObj pHandle
      (second.env (s.secondId ids))).map fun r => (s.afterRegister ids msg r, [.code r.code])
  | s, .unregister context watchId =>
    let (code, live) := tapiUnregister context watchId s.live
    some (s.afterUnregister watchId code live, [.code code])
  | s, .signal sig => some (s, (s.live.filter sig.reaches).map .invoked)

end Session

/-! ## The promise -/

/-- A registration either returns the id of a watch and makes live exactly the watches for the
signals that carry the indication, each with the caller's callback and object, or returns a
negative value and makes nothing live. -/
def Registers (cfg : Config) (s s' : Session δ) (out : List (Output δ)) (slotId : ℤ)
    (msg : IndicationMsg) (userObj pHandle : Ptr) : Prop :=
  (∃ id : ℕ, 0 < id ∧ out = [.code id] ∧ ∃ new : List (Watch δ), s'.live = s.live ++ new ∧
    new.map (·.spec) = msg.signals cfg (modemPath cfg slotId) ∧
    ∀ w ∈ new, w.handler.cbFunction = pHandle ∧ w.handler.result.userObj = userObj) ∨
  ∃ code < 0, out = [.code code] ∧ s'.live = s.live

/-- What each call promises. A registration is answered with an id or refused; unregistering a
returned id leaves the watches that were live without it; a signal does not reach a
registration that was taken back. -/
def Lawful (cfg : Config) (ids : WatchIds) : Session δ × Event δ → Prop
  | (s, e) => ∃ s' out, s.step cfg ids e = some (s', out) ∧
    match e with
    | .register _ slotId msg userObj pHandle _ _ =>
      Registers cfg s s' out slotId msg userObj pHandle
    | .unregister _ watchId =>
      out = [.code ok] → ∀ r ∈ s.registrations, r.id = watchId →
        s'.live = s.live.filter fun w => w.id ∉ r.made
    | .signal _ => ∀ r ∈ s.closed, ∀ w, .invoked w ∈ out → w.id ∉ r.made

/-- The calls that keep the promise. The indication is one that some signal carries. The
emergency list is registered with a context and a valid slot, and if that slot has a modem,
both of its watches are granted or neither; and it is unregistered only when the second of its
watches is gone. -/
def Sound (cfg : Config) : Session δ × Event δ → Prop
  | (_, .register context slotId msg _ _ first second) =>
    msg.signals cfg (modemPath cfg slotId) ≠ [] ∧
    (msg = .eccListChange →
      (context.isSome = true ∧ isValidSlotid cfg slotId = true) ∧
      ((tapiUtilsGetModemPath cfg slotId).isSome = true → first.granted = second.granted))
  | (s, .unregister context watchId) =>
    context.isSome = true → ∀ r ∈ s.registrations, r.id = watchId → r.msg = .eccListChange →
      (∃ w ∈ s.live, w.id = r.id) → ∀ w ∈ s.live, w.id ∈ r.made → w.id = r.id
  | (_, .signal _) => True

/-! ## One step -/

/-- What a session that has kept its promises knows about its watches and registrations. -/
structure Accounted (s : Session δ) : Prop where
  live_granted : ∀ w ∈ s.live, w.id ∈ s.granted
  made_granted : ∀ r ∈ s.registrations ++ s.closed, ∀ i ∈ r.made, i ∈ s.granted
  pos : ∀ r ∈ s.registrations, 0 < r.id
  single : ∀ r ∈ s.registrations, r.msg ≠ .eccListChange → r.made = [r.id]
  mem_made : ∀ r ∈ s.registrations, r.id ∈ r.made
  closed_dead : ∀ r ∈ s.closed, ∀ w ∈ s.live, w.id ∉ r.made

theorem accounted_start : Accounted (Session.start : Session δ) := by
  constructor <;> simp [Session.start]

section Register

variable {cfg : Config} {ids : WatchIds} {s : Session δ} {msg : IndicationMsg}
  {r : Registered δ}

theorem firstId_pos : 0 < s.firstId ids := ids.pos _

theorem secondId_pos : 0 < s.secondId ids := ids.pos _

theorem firstId_notMem : s.firstId ids ∉ s.granted := ids.fresh _

theorem secondId_notMem : s.secondId ids ∉ s.granted := by
  intro h
  exact ids.fresh (s.firstId ids :: s.granted) (List.mem_cons_of_mem _ h)

/-- A registration that creates watches with fresh ids, and returns the id of one of them if
it succeeds, keeps the account. -/
theorem accounted_afterRegister (hs : Accounted s)
    (fresh : ∀ w ∈ r.watches, w.id = s.firstId ids ∨ w.id = s.secondId ids)
    (named : 0 < r.code → r.code.toNat ∈ r.watches.map (·.id))
    (single : msg ≠ .eccListChange → r.watches.length ≤ 1) :
    Accounted (s.afterRegister ids msg r) := by
  have new_granted : ∀ w ∈ r.watches, w.id ∈ (s.afterRegister ids msg r).granted := by
    intro w hw
    rcases fresh w hw with h | h <;> simp [Session.afterRegister, h]
  have old_granted : ∀ i ∈ s.granted, i ∈ (s.afterRegister ids msg r).granted := by
    intro i hi
    exact List.mem_cons_of_mem _ (List.mem_cons_of_mem _ hi)
  have registrations : ∀ q ∈ (s.afterRegister ids msg r).registrations,
      q ∈ s.registrations ∨ 0 < r.code ∧ q = ⟨r.code.toNat, msg, r.watches.map (·.id)⟩ := by
    intro q hq
    unfold Session.afterRegister at hq
    split at hq
    · rename_i hcode
      exact (List.mem_cons.mp hq).symm.imp id fun h => ⟨hcode, h⟩
    · exact .inl hq
  constructor
  · intro w hw
    rcases List.mem_append.mp hw with hw | hw
    · exact old_granted _ (hs.live_granted w hw)
    · exact new_granted w hw
  · intro q hq i hi
    rcases List.mem_append.mp hq with hq | hq
    · rcases registrations q hq with hq | ⟨-, rfl⟩
      · exact old_granted _ (hs.made_granted q (List.mem_append_left _ hq) i hi)
      · obtain ⟨w, hw, rfl⟩ := List.mem_map.mp hi
        exact new_granted w hw
    · exact old_granted _ (hs.made_granted q (List.mem_append_right _ hq) i hi)
  · intro q hq
    rcases registrations q hq with hq | ⟨hcode, rfl⟩
    · exact hs.pos q hq
    · simpa using hcode
  · intro q hq hmsg
    rcases registrations q hq with hq | ⟨hcode, rfl⟩
    · exact hs.single q hq hmsg
    · -- a list of at most one id that has the returned one among them
      have hlength := single hmsg
      have hnamed := named hcode
      match hwatches : r.watches with
      | [] => simp [hwatches] at hnamed
      | [w] => simpa [hwatches, eq_comm] using hnamed
      | _ :: _ :: _ => simp [hwatches] at hlength
  · intro q hq
    rcases registrations q hq with hq | ⟨hcode, rfl⟩
    · exact hs.mem_made q hq
    · exact named hcode
  · intro q hq w hw hmem
    rcases List.mem_append.mp hw with hw | hw
    · exact hs.closed_dead q hq w hw hmem
    · -- the ids of a registration that was taken back are used up
      have hgranted := hs.made_granted q (List.mem_append_right _ hq) _ hmem
      rcases fresh w hw with h | h
      · exact firstId_notMem (h ▸ hgranted)
      · exact secondId_notMem (h ▸ hgranted)

theorem step_register {context : Option DbusContext} {slotId : ℤ} {userObj pHandle : Ptr}
    {first second : Supply δ}
    (h : tapiRegister cfg (first.env (s.firstId ids)) context slotId msg userObj pHandle
      (second.env (s.secondId ids)) = some r) :
    s.step cfg ids (.register context slotId msg userObj pHandle first second) =
      some (s.afterRegister ids msg r, [.code r.code]) := by
  simp [Session.step, h]

/-- Whatever a registration does, sound or not, the account is kept. -/
theorem accounted_register (hs : Accounted s) {context : Option DbusContext} {slotId : ℤ}
    {userObj pHandle : Ptr} {first second : Supply δ}
    (h : tapiRegister cfg (first.env (s.firstId ids)) context slotId msg userObj pHandle
      (second.env (s.secondId ids)) = some r) :
    Accounted (s.afterRegister ids msg r) := by
  rcases registered_of_tapiRegister h with ⟨-, rfl⟩ | ⟨spec, -, hgrants⟩ |
    ⟨rfl, voicecall, modem, r₁, r₂, -, hvoicecall, hmodem, rfl, -⟩
  · -- nothing carries the indication
    apply accounted_afterRegister hs <;> simp [Registered.refused]
  · apply accounted_afterRegister hs
    · exact fun w hw => .inl (Supply.id_of_grants hgrants hw)
    · exact hgrants.named
    · exact fun _ => hgrants.length_le
  · apply accounted_afterRegister hs
    · intro w hw
      exact (List.mem_append.mp hw).imp (Supply.id_of_grants hvoicecall)
        (Supply.id_of_grants hmodem)
    · intro pos
      rw [List.map_append]
      exact List.mem_append_left _ (hvoicecall.named pos)
    · exact fun h => absurd rfl h

/-- A registrar that stands alone keeps its promise. -/
theorem registers_of_grants {env : WatchEnv δ} {context : Option DbusContext} {slotId : ℤ}
    {userObj pHandle : Ptr} {record : AsyncResult δ → AsyncResult δ} {spec : SignalSpec}
    (hsignals : msg.signals cfg (modemPath cfg slotId) = [spec])
    (hrecord : ∀ block, (record block).userObj = userObj)
    (h : Grants env context record pHandle spec r) :
    Registers cfg s (s.afterRegister ids msg r) [.code r.code] slotId msg userObj pHandle := by
  cases h with
  | refused neg => exact .inr ⟨_, neg, rfl, by simp [Session.afterRegister, Registered.refused]⟩
  | watched opened result pos =>
    refine .inl ⟨env.watch, pos, rfl, _, rfl, ?_, ?_⟩
    · simp [hsignals]
    · intro w hw
      obtain rfl := List.mem_singleton.mp hw
      exact ⟨rfl, hrecord _⟩

theorem record_userObj {slotId : ℤ} {userObj : Ptr} (block : AsyncResult δ) :
    (msg.record slotId userObj block).userObj = userObj := by
  cases msg <;> rfl

/-- Of two registrars under one id, the promise asks that both watch or neither does. -/
theorem registers_append_iff {env₁ env₂ : WatchEnv δ} {context : Option DbusContext}
    {slotId : ℤ} {userObj pHandle : Ptr} {record₁ record₂ : AsyncResult δ → AsyncResult δ}
    {spec₁ spec₂ : SignalSpec} {r₁ r₂ : Registered δ}
    (hsignals : msg.signals cfg (modemPath cfg slotId) = [spec₁, spec₂])
    (hrecord₁ : ∀ block, (record₁ block).userObj = userObj)
    (hrecord₂ : ∀ block, (record₂ block).userObj = userObj)
    (h₁ : Grants env₁ context record₁ pHandle spec₁ r₁)
    (h₂ : Grants env₂ context record₂ pHandle spec₂ r₂) :
    Registers cfg s (s.afterRegister ids msg ⟨r₁.code, r₁.watches ++ r₂.watches⟩)
        [.code r₁.code] slotId msg userObj pHandle ↔
      (r₁.watches ≠ [] ↔ r₂.watches ≠ []) := by
  cases h₁ with
  | refused neg₁ =>
    cases h₂ with
    | refused neg₂ =>
      refine iff_of_true (.inr ⟨_, neg₁, rfl, ?_⟩) ?_ <;>
        simp [Session.afterRegister, Registered.refused]
    | watched =>
      -- refused as a whole, but the second watch is live
      refine iff_of_false ?_ (by simp [Registered.refused])
      rintro (⟨id, pos, hout, -⟩ | ⟨code, -, -, hlive⟩)
      · simp only [Registered.refused, List.cons.injEq, Output.code.injEq, and_true] at hout
        omega
      · simp [Session.afterRegister, Registered.refused] at hlive
  | watched opened₁ result₁ pos₁ =>
    cases h₂ with
    | refused neg₂ =>
      -- an id is returned, and the second source is not watched
      refine iff_of_false ?_ (by simp [Registered.refused])
      rintro (⟨id, pos, -, new, hlive, hnew, -⟩ | ⟨code, neg, hout, -⟩)
      · obtain rfl : _ = new := by
          simpa [Session.afterRegister, Registered.refused] using hlive
        simp [hsignals] at hnew
      · simp only [List.cons.injEq, Output.code.injEq, and_true] at hout
        omega
    | watched opened₂ result₂ pos₂ =>
      refine iff_of_true (.inl ⟨env₁.watch, pos₁, rfl, _, rfl, ?_, ?_⟩) (by simp)
      · simp [hsignals]
      · intro w hw
        rcases List.mem_append.mp hw with hw | hw
        · obtain rfl := List.mem_singleton.mp hw
          exact ⟨rfl, hrecord₁ _⟩
        · obtain rfl := List.mem_singleton.mp hw
          exact ⟨rfl, hrecord₂ _⟩

theorem lawful_register_iff {context : Option DbusContext} {slotId : ℤ} {userObj pHandle : Ptr}
    {first second : Supply δ} :
    Lawful cfg ids (s, .register context slotId msg userObj pHandle first second) ↔
      Sound cfg (s, .register context slotId msg userObj pHandle first second) := by
  cases hr : tapiRegister cfg (first.env (s.firstId ids)) context slotId msg userObj pHandle
      (second.env (s.secondId ids)) with
  | none =>
    obtain ⟨rfl, hunchecked⟩ := tapiRegister_eq_none_iff.mp hr
    refine iff_of_false ?_ fun hsound => hunchecked (hsound.2 rfl).1
    -- a call that comes to no end promises nothing
    rintro ⟨s', out, hstep, -⟩
    simp [Session.step, hr] at hstep
  | some r =>
    have hlawful : Lawful cfg ids (s, .register context slotId msg userObj pHandle first second) ↔
        Registers cfg s (s.afterRegister ids msg r) [.code r.code] slotId msg userObj
          pHandle := by
      simp only [Lawful, step_register hr, Option.some.injEq, Prod.mk.injEq]
      constructor
      · rintro ⟨s', out, ⟨rfl, rfl⟩, h⟩
        exact h
      · exact fun h => ⟨_, _, ⟨rfl, rfl⟩, h⟩
    rw [hlawful]
    rcases registered_of_tapiRegister hr with ⟨hnil, rfl⟩ | ⟨spec, hspec, hgrants⟩ |
      ⟨rfl, voicecall, modem, r₁, r₂, hsignals, h₁, h₂, rfl, hchecked, hw₁, hw₂⟩
    · refine iff_of_false ?_ fun hsound => hsound.1 hnil
      -- the answer is 0, which is neither an id nor a refusal
      rintro (⟨id, pos, hout, -⟩ | ⟨code, neg, hout, -⟩) <;>
        · simp only [Registered.refused, List.cons.injEq, Output.code.injEq, and_true] at hout
          omega
    · refine iff_of_true (registers_of_grants hspec record_userObj hgrants) ⟨by simp [hspec], ?_⟩
      rintro rfl
      simp [IndicationMsg.signals] at hspec
    · -- whether each of the two watches is made depends on what it is granted
      have hboth : Registers cfg s
          (s.afterRegister ids .eccListChange ⟨r₁.code, r₁.watches ++ r₂.watches⟩)
          [.code r₁.code] slotId .eccListChange userObj pHandle ↔
            (r₁.watches ≠ [] ↔ r₂.watches ≠ []) :=
        registers_append_iff hsignals (fun _ => rfl) (fun _ => rfl) h₁ h₂
      refine hboth.trans ?_
      rw [hw₁, hw₂, Supply.granted_env firstId_pos, Supply.granted_env secondId_pos]
      simp only [Sound, hsignals, ne_eq, reduceCtorEq, not_false_eq_true, true_and,
        forall_const, hchecked, and_self]
      cases (tapiUtilsGetModemPath cfg slotId).isSome <;> cases first.granted <;>
        cases second.granted <;> simp

end Register

section Unregister

variable {cfg : Config} {ids : WatchIds} {s : Session δ} {context : Option DbusContext}
  {watchId : ℤ}

/-- `tapi_unregister` fails and removes nothing, or it removes the watch with the given id. -/
theorem tapiUnregister_cases (context : Option DbusContext) (watchId : ℤ)
    (live : List (Watch δ)) :
    (tapiUnregister context watchId live = (-einval, live) ∧
      (context.isSome = true → 0 < watchId → ∀ w ∈ live, (w.id : ℤ) ≠ watchId)) ∨
    tapiUnregister context watchId live = (ok, live.filter fun w => w.id ≠ watchId) ∧
      context.isSome = true ∧ ∃ w ∈ live, (w.id : ℤ) = watchId := by
  unfold tapiUnregister
  cases context with
  | none => simp
  | some ctx =>
    dsimp only
    split
    · rename_i hle
      exact .inl ⟨rfl, fun _ hlt => absurd hle (Int.not_le.mpr hlt)⟩
    · split
      · rename_i hlive
        exact .inr ⟨rfl, rfl, by simpa using hlive⟩
      · rename_i hlive
        exact .inl ⟨rfl, fun _ _ => by simpa using hlive⟩

/-- Removing one watch removes a whole registration exactly if no other watch of it is
live. -/
theorem filter_ne_eq_iff {r : Registration} (hmade : r.id ∈ r.made) (hid : r.id = watchId) :
    (s.live.filter fun w => w.id ≠ watchId) = (s.live.filter fun w => w.id ∉ r.made) ↔
      ∀ w ∈ s.live, w.id ∈ r.made → w.id = r.id := by
  subst hid
  simp only [ne_eq, Int.natCast_inj]
  constructor
  · intro heq w hw hmem
    by_contra hne
    -- a watch of the registration that the call would leave
    have hkept : w ∈ s.live.filter fun w => ¬ w.id = r.id := by simp [hw, hne]
    rw [heq] at hkept
    simp [hmem] at hkept
  · intro honly
    apply List.filter_congr
    intro w hw
    have hiff : w.id = r.id ↔ w.id ∈ r.made := ⟨fun h => h ▸ hmade, honly w hw⟩
    simp [hiff]

theorem step_unregister {code : ℤ} {live : List (Watch δ)}
    (h : tapiUnregister context watchId s.live = (code, live)) :
    s.step cfg ids (.unregister context watchId) =
      some (s.afterUnregister watchId code live, [.code code]) := by
  simp [Session.step, h]

theorem lawful_unregister_iff (hs : Accounted s) :
    Lawful cfg ids (s, .unregister context watchId) ↔
      Sound cfg (s, .unregister context watchId) := by
  rcases tapiUnregister_cases context watchId s.live with
    ⟨hrefused, habsent⟩ | ⟨hremoved, hopened, hlive⟩
  · -- a refusal promises nothing, and no watch with the id is live
    refine iff_of_true ⟨_, _, step_unregister hrefused, ?_⟩ ?_
    · intro hout
      simp [einval, ok] at hout
    · rintro hopened r hr rfl - ⟨w, hw, hid⟩
      have hpos : (0 : ℤ) < r.id := Int.natCast_pos.mpr (hs.pos r hr)
      exact absurd (congrArg Nat.cast hid) (habsent hopened hpos w hw)
  · have hlawful : Lawful cfg ids (s, .unregister context watchId) ↔
        ∀ r ∈ s.registrations, r.id = watchId →
          (s.live.filter fun w => w.id ≠ watchId) = s.live.filter fun w => w.id ∉ r.made := by
      simp only [Lawful, step_unregister hremoved, Option.some.injEq, Prod.mk.injEq]
      constructor
      · rintro ⟨s', out, ⟨rfl, rfl⟩, h⟩
        simpa [Session.afterUnregister] using h rfl
      · intro h
        refine ⟨_, _, ⟨rfl, rfl⟩, fun _ => ?_⟩
        simpa [Session.afterUnregister] using h
    rw [hlawful]
    simp only [Sound, hopened, forall_const]
    refine forall₂_congr fun r hr => ?_
    refine forall_congr' fun hid => ?_
    rw [filter_ne_eq_iff (hs.mem_made r hr) hid]
    constructor
    · exact fun honly _ _ => honly
    · intro h
      by_cases hecc : r.msg = .eccListChange
      · obtain ⟨w, hw, hwid⟩ := hlive
        exact h hecc ⟨w, hw, Int.natCast_inj.mp (hwid.trans hid.symm)⟩
      · -- a registration of another indication has made one watch
        intro w hw hmem
        simpa [hs.single r hr hecc] using hmem

/-- Taking a registration back as promised keeps the account. -/
theorem accounted_unregister (hs : Accounted s) {code : ℤ} {live : List (Watch δ)}
    (h : tapiUnregister context watchId s.live = (code, live))
    (hlawful : Lawful cfg ids (s, .unregister context watchId)) :
    Accounted (s.afterUnregister watchId code live) := by
  obtain ⟨s', out, hstep, hkept⟩ := hlawful
  obtain ⟨rfl, rfl⟩ := Prod.mk.inj (Option.some_inj.mp ((step_unregister h).symm.trans hstep))
  have hsub : live.Sublist s.live := by
    rcases tapiUnregister_cases context watchId s.live with
      ⟨hcase, -⟩ | ⟨hcase, -⟩
    · obtain ⟨-, rfl⟩ := Prod.mk.inj (h.symm.trans hcase)
      exact List.Sublist.refl _
    · obtain ⟨-, rfl⟩ := Prod.mk.inj (h.symm.trans hcase)
      exact List.filter_sublist
  by_cases hok : code = ok
  · subst hok
    -- what the call has promised is that the registration has left no watch
    have hremoved := hkept rfl
    simp only [Session.afterUnregister, if_true] at hremoved ⊢
    constructor
    · exact fun w hw => hs.live_granted w (hsub.subset hw)
    · intro r hr i hi
      apply hs.made_granted r _ i hi
      simp only [List.mem_append, List.mem_filter] at hr ⊢
      tauto
    · exact fun r hr => hs.pos r (List.mem_of_mem_filter hr)
    · exact fun r hr => hs.single r (List.mem_of_mem_filter hr)
    · exact fun r hr => hs.mem_made r (List.mem_of_mem_filter hr)
    · intro r hr w hw hmem
      rcases List.mem_append.mp hr with hr | hr
      · obtain ⟨hr, hid⟩ := List.mem_filter.mp hr
        rw [hremoved r hr (by simpa using hid)] at hw
        simp [hmem] at hw
      · exact hs.closed_dead r hr w (hsub.subset hw) hmem
  · simp only [Session.afterUnregister, if_neg hok]
    exact ⟨fun w hw => hs.live_granted w (hsub.subset hw), hs.made_granted, hs.pos, hs.single,
      hs.mem_made, fun r hr w hw => hs.closed_dead r hr w (hsub.subset hw)⟩

end Unregister

/-! ## Sessions -/

section Sessions

variable {cfg : Config} {ids : WatchIds} {s s' : Session δ} {e : Event δ}
  {out : List (Output δ)}

theorem lawful_iff_sound_of_accounted (hs : Accounted s) :
    Lawful cfg ids (s, e) ↔ Sound cfg (s, e) := by
  cases e with
  | register context slotId msg userObj pHandle first second => exact lawful_register_iff
  | unregister context watchId => exact lawful_unregister_iff hs
  | signal sig =>
    refine iff_of_true ⟨_, _, rfl, ?_⟩ trivial
    intro r hr w hw
    obtain ⟨w', hw', heq⟩ := List.mem_map.mp hw
    obtain rfl := Output.invoked.inj heq
    exact hs.closed_dead r hr w' (List.mem_of_mem_filter hw')

theorem accounted_step (hs : Accounted s) (hlawful : Lawful cfg ids (s, e))
    (hstep : s.step cfg ids e = some (s', out)) : Accounted s' := by
  cases e with
  | register context slotId msg userObj pHandle first second =>
    obtain ⟨r, hr, heq⟩ := Option.map_eq_some_iff.mp hstep
    obtain ⟨rfl, -⟩ := Prod.mk.inj heq
    exact accounted_register hs hr
  | unregister context watchId =>
    obtain ⟨rfl, -⟩ := Prod.mk.inj (Option.some_inj.mp ((step_unregister rfl).symm.trans hstep))
    -- the ids stay known only if the promise has been kept
    exact accounted_unregister hs rfl hlawful
  | signal sig =>
    obtain ⟨rfl, -⟩ := Prod.mk.inj (Option.some_inj.mp hstep)
    exact hs

end Sessions

/-- In every session, whatever contexts, slots and indications its calls name and whatever
they are granted, the promises are kept exactly if every call is sound. -/
theorem lawful_iff_sound (cfg : Config) (ids : WatchIds) (es : List (Event δ)) :
    (∀ v ∈ visits (Session.step cfg ids) Session.start es, Lawful cfg ids v) ↔
      ∀ v ∈ visits (Session.step cfg ids) Session.start es, Sound cfg v :=
  forall_visits_iff Accounted (fun _ _ _ _ => accounted_step)
    (fun _ _ => lawful_iff_sound_of_accounted) accounted_start

/-- Registering on slot 0 with everything granted, on a block of zeros. -/
def registerGranted (msg : IndicationMsg) : Event Unit :=
  .register (some idleContext) 0 msg 7 1 ⟨true, some ⟨0, 0, 0, 0, 0, (), 0⟩, true⟩
    ⟨true, some ⟨0, 0, 0, 0, 0, (), 0⟩, true⟩

/-- An indication that nothing carries is answered with 0. And once the emergency list has been
registered as 1 and 1 has been unregistered, the watch on the modem is still live. -/
theorem not_lawful_unoffered_eccList :
    ¬ Lawful twoModems .counter (Session.start, registerGranted .stkAgentRelease) ∧
    ¬ ∀ v ∈ visits (Session.step twoModems .counter) Session.start
        [registerGranted .eccListChange, .unregister (some idleContext) 1],
      Lawful twoModems .counter v := by
  constructor
  · rintro ⟨s', out, hstep, hregisters⟩
    obtain ⟨rfl, rfl⟩ := Prod.mk.inj (Option.some_inj.mp hstep)
    rcases hregisters with ⟨id, pos, hout, -⟩ | ⟨code, neg, hout, -⟩ <;>
      · simp only [Registered.refused, List.cons.injEq, Output.code.injEq, and_true] at hout
        omega
  · intro hlawful
    -- the second step, in the state that the first one leads to
    obtain ⟨s', out, hstep, hkept⟩ := hlawful _ (List.mem_cons_of_mem _ List.mem_cons_self)
    obtain ⟨rfl, rfl⟩ := Prod.mk.inj (Option.some_inj.mp hstep)
    have hlive := hkept rfl _ List.mem_cons_self rfl
    exact absurd (congrArg (List.map (·.id)) hlive) (by decide)

end Telephony.Manager
