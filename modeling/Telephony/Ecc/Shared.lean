import Telephony.Ecc.RoundTrip
import Telephony.Machine
import Telephony.SignalFunction

/-!
# One signal for several listeners

The bus library hands a received signal to every function that watches it, one after the other,
and all of them read the same message. The two functions that read emergency numbers look for the
category and the condition with `strtok`, which ends the text behind the category in the message
itself. Whoever reads the text afterwards finds no condition and converts NULL.

## Main definitions

* `Ecc.eccLeaves` — what reading the array leaves of its texts
* `Ecc.Listener` — a function that watches the properties of the voice calls or of the modem
* `Ecc.Independent` — every listener gets its result from the signal as it was received
* `Ecc.Intact` — the signal is left as it was received

## Main results

* `Ecc.function_mem_of_mem_signals` — the functions that a registration can let listen
* `Ecc.handling_of_not_reads`, `Ecc.handling_of_reads` — what a listener does with the signal
* `Ecc.independent_and_intact_iff` — the results are independent exactly if at most one listener
  reads the numbers, or there is no text to be split
-/

namespace Telephony.Ecc

open DBus Machine

/-! ## What reading leaves -/

/-- The texts of the array once the loop has read them: those behind a number are cut off behind
their first token. -/
def eccLeaves : ℕ → List String → List String
  | room + 1, eccNum :: text :: texts => eccNum :: strtokLeaves text ',' :: eccLeaves room texts
  | _, texts => texts

/-- The entries that the loop finds among the texts of an array. -/
def entriesOf (texts : List String) : Option (List EccInfo) :=
  Call.eccEntries Call.maxEccListSize (texts.map .string)

section Leaves

variable {texts : List String}

/-- Without a text behind a number nothing is cut off. -/
theorem eccLeaves_of_length_le_one (h : texts.length ≤ 1) (room : ℕ) :
    eccLeaves room texts = texts := by
  match room, texts with
  | 0, _ | _ + 1, [] | _ + 1, [_] => rfl

/-- A text that has been read has no condition any more. -/
theorem eccCondition_strtokLeaves (eccNum text : String) :
    Call.eccCondition eccNum (strtokLeaves text ',') = none := by
  rw [Call.eccCondition, strtok_strtokLeaves]
  cases strtok text ',' with
  | nil => rfl
  | cons token tokens => rfl

/-- Whoever reads the array after another finds the first text without its condition. -/
theorem eccEntries_eccLeaves (h : 2 ≤ texts.length) (room : ℕ) :
    Call.eccEntries (room + 1) ((eccLeaves (room + 1) texts).map .string) = none := by
  match texts with
  | eccNum :: text :: texts =>
    simp [eccLeaves, Call.eccEntries, eccCondition_strtokLeaves]

theorem entriesOf_eccLeaves (h : 2 ≤ texts.length) :
    entriesOf (eccLeaves Call.maxEccListSize texts) = none :=
  eccEntries_eccLeaves h 29

/-- An array that can be read does not survive it. -/
theorem eccLeaves_ne (h : 2 ≤ texts.length) (hread : (entriesOf texts).isSome = true) :
    eccLeaves Call.maxEccListSize texts ≠ texts := by
  intro heq
  rw [← heq, entriesOf_eccLeaves h] at hread
  contradiction

end Leaves

/-! ## Listeners -/

/-- The two interfaces that announce the numbers. -/
inductive Source
  | voicecalls | modem
  deriving DecidableEq, Repr

namespace Source

def interface : Source → Interface
  | .voicecalls => .voicecallManager
  | .modem => .modem

/-- The functions that watch the properties of the interface. -/
def functions : Source → List SignalFunction
  | .voicecalls => [.callManagerPropertyChanged]
  | .modem => [.radioStateChanged, .airplaneModeChanged, .modemStateChanged, .modemEccListChange]

end Source

/-- A registration that watches the properties of the interface does so with one of these
functions. -/
theorem function_mem_of_mem_signals {cfg : Config} {path : String} {msg : IndicationMsg}
    {spec : SignalSpec} {source : Source} (h : spec ∈ msg.signals cfg path)
    (hinterface : spec.interface = source.interface) (hmember : spec.member = "PropertyChanged") :
    spec.function ∈ source.functions := by
  by_cases hecc : msg = .eccListChange
  · -- the numbers themselves are announced on both interfaces
    subst hecc
    simp only [IndicationMsg.signals, List.mem_cons, List.not_mem_nil, or_false] at h
    obtain rfl | rfl := h <;> cases source <;> simp_all [Source.interface, Source.functions]
  · cases source <;> cases msg <;>
      simp_all [IndicationMsg.signals, Source.interface, Source.functions]

/-- A watch that gets the signal, with its handler. -/
structure Listener (source : Source) where
  function : SignalFunction
  listens : function ∈ source.functions
  handler : AsyncHandler Payload

namespace Listener

variable {source : Source}

/-- The listener reads the numbers out of the message. -/
def Reads (l : Listener source) : Prop :=
  l.handler.cbFunction ≠ null ∧ (l.function = .modemEccListChange ∨
    l.function = .callManagerPropertyChanged ∧
      l.handler.result.msgId = IndicationMsg.eccListChange.value)

instance (l : Listener source) : Decidable l.Reads := inferInstanceAs (Decidable (_ ∧ _))

variable (cfg : Config) (heap : Heap)

/-- What the listener does with the signal. -/
def handling (l : Listener source) (texts : List String) : Option Handling :=
  l.function.run cfg source.interface l.handler (eccSignal texts) heap

/-- The listener gets the signal in its turn: what it does, and the texts that are left in the
message. -/
def step : Step (List String) (Listener source) Handling := fun texts l =>
  (l.handling cfg heap texts).map fun h =>
    (if l.Reads then eccLeaves Call.maxEccListSize texts else texts, [h])

variable {cfg heap} {l : Listener source} {texts : List String}

/-- A function that watches a number drops the signal. -/
theorem onIntProperty_eccSignal {handler : AsyncHandler Payload} {name : String}
    (h : name ≠ "EmergencyNumbers") :
    onIntProperty handler (eccSignal texts) name = some (ignore handler.result) := by
  by_cases hcb : handler.cbFunction = null
  · rw [onIntProperty, onPropertySignal, onSignal, withCallback, if_pos hcb]
  · have hproperty : "EmergencyNumbers" ≠ name := h.symm
    simp [onIntProperty, onPropertySignal, onSignal, withCallback_of_ne hcb, eccSignal,
      Iter.getString, Iter.next, Iter.recurse, hproperty]

theorem onlyFor_eccSignal {msg : IndicationMsg} {handler : AsyncHandler Payload} {name : String}
    (h : name ≠ "EmergencyNumbers") :
    onlyFor msg handler (onIntProperty handler (eccSignal texts) name) =
      some (ignore handler.result) := by
  rw [onIntProperty_eccSignal h, onlyFor, ite_self]

theorem callManagerPropertyChanged_of_not_reads {handler : AsyncHandler Payload}
    (h : ¬ (handler.cbFunction ≠ null ∧
      handler.result.msgId = IndicationMsg.eccListChange.value)) :
    Call.callManagerPropertyChanged cfg .voicecallManager handler (eccSignal texts) =
      some (ignore handler.result) := by
  by_cases hcb : handler.cbFunction = null
  · simp [Call.callManagerPropertyChanged, Call.tapiCallPropertyChange, withCallback, hcb,
      eccSignal]
  · have hmsg : ¬ handler.result.msgId = IndicationMsg.eccListChange.value :=
      fun hmsg => h ⟨hcb, hmsg⟩
    simp [Call.callManagerPropertyChanged, Call.tapiCallPropertyChange, withCallback_of_ne hcb,
      eccSignal, hmsg]

/-- A listener that does not read the numbers drops the signal, whatever its texts are. -/
theorem handling_of_not_reads (h : ¬ l.Reads) :
    l.handling cfg heap texts = some (ignore (l.function.stamped l.handler).result) := by
  obtain ⟨function, listens, handler⟩ := l
  cases source with
  | voicecalls =>
    obtain rfl : function = .callManagerPropertyChanged := List.mem_singleton.mp listens
    change Call.callManagerPropertyChanged cfg .voicecallManager handler (eccSignal texts) = _
    exact callManagerPropertyChanged_of_not_reads fun hreads =>
      h ⟨hreads.1, .inr ⟨rfl, hreads.2⟩⟩
  | modem =>
    simp only [Source.functions, List.mem_cons, List.not_mem_nil, or_false] at listens
    -- the first three listen to other properties
    obtain rfl | rfl | rfl | rfl := listens
    · exact onlyFor_eccSignal (by decide)
    · exact onlyFor_eccSignal (by decide)
    · exact onlyFor_eccSignal (by decide)
    · have hcb : handler.cbFunction = null := by
        by_contra hcb
        exact h ⟨hcb, .inl rfl⟩
      exact if_pos hcb

/-- A list that is delivered was read out of the signal. -/
theorem deliverEccList_args (ar : AsyncResult Payload) :
    Call.deliverEccList (eccSignal texts).args ar = (entriesOf texts).map fun infos =>
      deliver { ar with status := ok, data := .eccList infos, arg2 := infos.length } := rfl

/-- A listener that reads the numbers delivers what it finds. -/
theorem handling_of_reads (h : l.Reads) :
    l.handling cfg heap texts = (entriesOf texts).map fun infos =>
      deliver { (l.function.stamped l.handler).result with
        status := ok, data := .eccList infos, arg2 := infos.length } := by
  obtain ⟨function, listens, handler⟩ := l
  obtain ⟨hcb, rfl | ⟨rfl, hmsg⟩⟩ := h
  · change Manager.modemEccListChange handler (eccSignal texts) = _
    have hcb' : (Manager.eccHandler handler).cbFunction ≠ null := hcb
    rw [← deliverEccList_args]
    simp [Manager.modemEccListChange, onSignal, withCallback_of_ne hcb', eccSignal,
      Iter.getString, SignalFunction.stamped]
  · -- the call manager has one function, the modem has another
    cases source with
    | modem => contradiction
    | voicecalls =>
      change Call.callManagerPropertyChanged cfg .voicecallManager handler (eccSignal texts) = _
      rw [← deliverEccList_args]
      have hcb' : handler.cbFunction ≠ null := hcb
      simp_all [Call.callManagerPropertyChanged, Call.tapiCallPropertyChange,
        withCallback_of_ne hcb', eccSignal, SignalFunction.stamped]

end Listener

/-! ## Turns -/

variable (cfg : Config) (heap : Heap) {source : Source}

/-- All listeners are served, each as if the signal had just been received. -/
def Independent (texts : List String) (ls : List (Listener source)) : Prop :=
  ∃ left hs, run (Listener.step cfg heap) texts ls = some (left, hs) ∧
    hs.map some = ls.map fun l => l.handling cfg heap texts

/-- All listeners are served, and the signal is left as it was received. -/
def Intact (texts : List String) (ls : List (Listener source)) : Prop :=
  ∃ hs, run (Listener.step cfg heap) texts ls = some (texts, hs)

section Turns

variable {cfg heap} {texts left : List String} {ls : List (Listener source)}
  {l : Listener source} {h : Handling}

theorem step_eq_some (hhandling : l.handling cfg heap texts = some h) :
    Listener.step cfg heap texts l =
      some (if l.Reads then eccLeaves Call.maxEccListSize texts else texts, [h]) := by
  rw [Listener.step, hhandling, Option.map_some]

/-- The turn of a listener that is served and leaves the texts `left`. -/
theorem run_cons_of_handling (hhandling : l.handling cfg heap texts = some h)
    (hleft : (if l.Reads then eccLeaves Call.maxEccListSize texts else texts) = left) :
    run (Listener.step cfg heap) texts (l :: ls) =
      (run (Listener.step cfg heap) left ls).map fun r => (r.1, h :: r.2) := by
  rw [run, step_eq_some hhandling, hleft]
  rfl

/-- Listeners that leave the texts as they are served one after the other. -/
theorem run_of_leaves (hserved : ∀ l ∈ ls, (l.handling cfg heap texts).isSome = true)
    (hleaves : ∀ l ∈ ls, l.Reads → eccLeaves Call.maxEccListSize texts = texts) :
    ∃ hs, run (Listener.step cfg heap) texts ls = some (texts, hs) ∧
      hs.map some = ls.map fun l => l.handling cfg heap texts := by
  induction ls with
  | nil => exact ⟨[], rfl, rfl⟩
  | cons l ls ih =>
    rw [List.forall_mem_cons] at hserved hleaves
    obtain ⟨h, hhandling⟩ := Option.isSome_iff_exists.mp hserved.1
    obtain ⟨hs, hrun, hmap⟩ := ih hserved.2 hleaves.2
    -- neither a reader nor another listener changes the texts here
    have hleft : (if l.Reads then eccLeaves Call.maxEccListSize texts else texts) = texts := by
      split
      · exact hleaves.1 ‹_›
      · rfl
    refine ⟨h :: hs, ?_, ?_⟩
    · rw [run_cons_of_handling hhandling hleft, hrun]
      rfl
    · rw [List.map_cons, List.map_cons, hmap, hhandling]

/-- Once the texts have been split, nobody else reads them. -/
theorem run_eq_none (hspent : entriesOf texts = none) (hreads : ∃ l ∈ ls, l.Reads) :
    run (Listener.step cfg heap) texts ls = none := by
  induction ls with
  | nil =>
    obtain ⟨l, hl, -⟩ := hreads
    contradiction
  | cons l ls ih =>
    by_cases hl : l.Reads
    · rw [run, Listener.step, Listener.handling_of_reads hl, hspent]
      rfl
    · obtain ⟨l', hl', hreads'⟩ := hreads
      -- the listener that reads is still to come
      have hmem : l' ∈ ls := by
        obtain rfl | hmem := List.mem_cons.mp hl'
        · contradiction
        · exact hmem
      rw [run_cons_of_handling (Listener.handling_of_not_reads hl) (if_neg hl),
        ih ⟨l', hmem, hreads'⟩]
      rfl

theorem isSome_handling (hread : (entriesOf texts).isSome = true) :
    (l.handling cfg heap texts).isSome = true := by
  by_cases hl : l.Reads
  · rw [Listener.handling_of_reads hl, Option.isSome_map, hread]
  · rw [Listener.handling_of_not_reads hl]
    rfl

variable (cfg heap) in
/-- A single listener that reads the numbers gets them, and the others drop the signal before and
after it. -/
theorem run_of_length_readers_eq_one (hread : (entriesOf texts).isSome = true)
    (hone : (ls.filter fun l => l.Reads).length = 1) :
    ∃ hs, run (Listener.step cfg heap) texts ls =
        some (eccLeaves Call.maxEccListSize texts, hs) ∧
      hs.map some = ls.map fun l => l.handling cfg heap texts := by
  induction ls with
  | nil => contradiction
  | cons l ls ih =>
    obtain ⟨h, hhandling⟩ := Option.isSome_iff_exists.mp (isSome_handling (l := l) hread)
    by_cases hl : l.Reads
    · have hrest : ∀ l ∈ ls, ¬ l.Reads := by
        simpa [List.filter_cons, hl] using hone
      -- the others drop the signal whatever has become of its texts
      have hdropped : ∀ texts', (ls.map fun l => l.handling cfg heap texts') =
          ls.map fun l => some (ignore (l.function.stamped l.handler).result) := fun _ =>
        List.map_congr_left fun l hmem => Listener.handling_of_not_reads (hrest l hmem)
      have hserved : ∀ l ∈ ls,
          (l.handling cfg heap (eccLeaves Call.maxEccListSize texts)).isSome = true := by
        intro l hmem
        rw [Listener.handling_of_not_reads (hrest l hmem)]
        rfl
      obtain ⟨hs, hrun, hmap⟩ := run_of_leaves hserved fun l hmem hreads =>
        absurd hreads (hrest l hmem)
      refine ⟨h :: hs, ?_, ?_⟩
      · rw [run_cons_of_handling hhandling (if_pos hl), hrun]
        rfl
      · rw [List.map_cons, List.map_cons, hmap, hhandling, hdropped, hdropped]
    · have hrest : (ls.filter fun l => l.Reads).length = 1 := by
        simpa [List.filter_cons, hl] using hone
      obtain ⟨hs, hrun, hmap⟩ := ih hrest
      refine ⟨h :: hs, ?_, ?_⟩
      · rw [run_cons_of_handling hhandling (if_neg hl), hrun]
        rfl
      · rw [List.map_cons, List.map_cons, hmap, hhandling]

variable (cfg heap) in
/-- The second listener that reads the numbers finds a text without a condition. -/
theorem run_of_two_le_length_readers (hlong : 2 ≤ texts.length)
    (htwo : 2 ≤ (ls.filter fun l => l.Reads).length) :
    run (Listener.step cfg heap) texts ls = none := by
  induction ls with
  | nil => contradiction
  | cons l ls ih =>
    cases hhandling : l.handling cfg heap texts with
    | none => rw [run, Listener.step, hhandling]; rfl
    | some h =>
      by_cases hl : l.Reads
      · -- the first reader has split the texts, and the second one is still to come
        have hrest : ∃ l ∈ ls, l.Reads := by
          have hpos : 0 < (ls.filter fun l => l.Reads).length := by
            rw [List.filter_cons_of_pos (by simpa using hl), List.length_cons] at htwo
            omega
          obtain ⟨l', hl'⟩ := List.exists_mem_of_length_pos hpos
          exact ⟨l', (List.mem_filter.mp hl').1, by simpa using (List.mem_filter.mp hl').2⟩
        rw [run_cons_of_handling hhandling (if_pos hl), run_eq_none (entriesOf_eccLeaves hlong)
          hrest]
        rfl
      · rw [List.filter_cons_of_neg (by simpa using hl)] at htwo
        rw [run_cons_of_handling hhandling (if_neg hl), ih htwo]
        rfl

end Turns

section Results

variable {cfg heap} {texts : List String} {ls : List (Listener source)}

/-- If no listener that reads the numbers has anything to split, nobody is in the way of another. -/
theorem served_of_leaves (hread : (entriesOf texts).isSome = true)
    (h : ∀ l ∈ ls, l.Reads → eccLeaves Call.maxEccListSize texts = texts) :
    Independent cfg heap texts ls ∧ Intact cfg heap texts ls := by
  have hserved : ∀ l ∈ ls, (l.handling cfg heap texts).isSome = true := fun _ _ =>
    isSome_handling hread
  obtain ⟨hs, hrun, hmap⟩ := run_of_leaves hserved h
  exact ⟨⟨texts, hs, hrun, hmap⟩, hs, hrun⟩

/-- A single listener that reads the numbers is in nobody's way, but leaves its mark. -/
theorem served_of_one (hread : (entriesOf texts).isSome = true) (hlong : 2 ≤ texts.length)
    (hone : (ls.filter fun l => l.Reads).length = 1) :
    Independent cfg heap texts ls ∧ ¬ Intact cfg heap texts ls := by
  obtain ⟨hs, hrun, hmap⟩ := run_of_length_readers_eq_one cfg heap hread hone
  refine ⟨⟨_, hs, hrun, hmap⟩, ?_⟩
  rintro ⟨hs', hrun'⟩
  have heq := Option.some_inj.mp (hrun.symm.trans hrun')
  exact eccLeaves_ne hlong hread (congrArg Prod.fst heq)

/-- Two listeners that read the numbers do not both come to their end. -/
theorem not_served_of_two (hlong : 2 ≤ texts.length)
    (htwo : 2 ≤ (ls.filter fun l => l.Reads).length) :
    ¬ Independent cfg heap texts ls ∧ ¬ Intact cfg heap texts ls := by
  have hrun := run_of_two_le_length_readers cfg heap hlong htwo
  constructor
  · rintro ⟨left, hs, hrun', -⟩
    rw [hrun] at hrun'
    contradiction
  · rintro ⟨hs, hrun'⟩
    rw [hrun] at hrun'
    contradiction

theorem length_readers_eq_zero_iff :
    (ls.filter fun l => l.Reads).length = 0 ↔ ∀ l ∈ ls, ¬ l.Reads := by
  simp

end Results

/-- With a list that can be read, all listeners get their results from the signal as it was
received exactly if at most one of them reads the numbers or nothing stands behind a number. The
signal survives exactly if none of them does or nothing stands there. -/
theorem independent_and_intact_iff {texts : List String} {ls : List (Listener source)}
    (hread : (entriesOf texts).isSome = true) :
    (Independent cfg heap texts ls ↔
      (ls.filter fun l => l.Reads).length ≤ 1 ∨ texts.length ≤ 1) ∧
    (Intact cfg heap texts ls ↔ (∀ l ∈ ls, ¬ l.Reads) ∨ texts.length ≤ 1) := by
  rw [← length_readers_eq_zero_iff]
  by_cases hshort : texts.length ≤ 1
  · obtain ⟨hindependent, hintact⟩ : Independent cfg heap texts ls ∧ Intact cfg heap texts ls :=
      served_of_leaves hread fun _ _ _ => eccLeaves_of_length_le_one hshort _
    exact ⟨iff_of_true hindependent (.inr hshort), iff_of_true hintact (.inr hshort)⟩
  have hlong : 2 ≤ texts.length := by omega
  -- a text stands behind a number: what counts is how many listeners split it
  obtain hnone | hone | htwo : (ls.filter fun l => l.Reads).length = 0 ∨
      (ls.filter fun l => l.Reads).length = 1 ∨
      2 ≤ (ls.filter fun l => l.Reads).length := by omega
  · have hquiet := length_readers_eq_zero_iff.mp hnone
    obtain ⟨hindependent, hintact⟩ : Independent cfg heap texts ls ∧ Intact cfg heap texts ls :=
      served_of_leaves hread fun l hl hreads => absurd hreads (hquiet l hl)
    exact ⟨iff_of_true hindependent (.inl (by omega)), iff_of_true hintact (.inl hnone)⟩
  · obtain ⟨hindependent, hintact⟩ : Independent cfg heap texts ls ∧ ¬ Intact cfg heap texts ls :=
      served_of_one hread hlong hone
    exact ⟨iff_of_true hindependent (.inl (by omega)), iff_of_false hintact (by omega)⟩
  · obtain ⟨hindependent, hintact⟩ :
        ¬ Independent cfg heap texts ls ∧ ¬ Intact cfg heap texts ls := not_served_of_two hlong htwo
    exact ⟨iff_of_false hindependent (by omega), iff_of_false hintact (by omega)⟩

/-! ## Two registrations for the emergency numbers -/

/-- A registration for the emergency numbers, as the watch of the voice calls has it. -/
def eccListener : Listener .voicecalls where
  function := .callManagerPropertyChanged
  listens := by decide
  handler := ⟨⟨IndicationMsg.eccListChange.value, indication, 0, 0, 0, .null, 0⟩, 1⟩

theorem independent_and_intact_iff_eccListener :
    (entriesOf ["112", "1,1"]).isSome = true ∧
      (Independent twoModems Heap.exhausted ["112", "1,1"] [eccListener] ↔
        ([eccListener].filter fun l => l.Reads).length ≤ 1 ∨ ["112", "1,1"].length ≤ 1) ∧
      (Intact twoModems Heap.exhausted ["112", "1,1"] [eccListener] ↔
        (∀ l ∈ [eccListener], ¬ l.Reads) ∨ ["112", "1,1"].length ≤ 1) :=
  ⟨by decide, independent_and_intact_iff twoModems Heap.exhausted (by decide)⟩

/-- The second registration converts NULL. -/
theorem not_independent_twoEccListeners :
    ¬ Independent twoModems Heap.exhausted ["112", "1,1"] [eccListener, eccListener] := by
  rintro ⟨left, hs, hrun, -⟩
  rw [run_of_two_le_length_readers _ _ (by decide) (by decide)] at hrun
  contradiction

end Telephony.Ecc
