import Telephony.Stk.Handled
import Telephony.Strings

/-!
# Menus of the SIM toolkit

A menu comes as an array of structures, each with a text and an icon. One function reads it as a
property, another as an argument of a selection. Neither enters the structures: the first reads the
text from the structure itself, and the second looks for an array among them.

## Main definitions

* `Stk.tapiStkGetMainMenu` — the function that reads the property
* `Stk.MenuItem.cut`, `Stk.menuHead` — the items that are to be reported
* `Stk.ReportsMainMenu`, `Stk.ReportsSelection` — each of the two functions reports them

## Main results

* `Stk.mainMenuLoop_items` — the loop over the property does not get past an item
* `Stk.reportsMenu_iff` — the items are reported exactly if there are none
-/

namespace Telephony.Stk

open DBus

/-! ## Reading the main menu -/

/-- `MAX_STK_MENU_TEXT_LEN` and `MAX_STK_MAIN_MENU_LENGTH`. -/
def maxStkMenuTextLen : ℕ := 20
def maxStkMainMenuLength : ℕ := 20

/-- What the loop does at a structure. Each assignment moves the index on, so that a text and its
icon go to different items; the increment in `sizeof` is not evaluated. -/
def storeItem (entry : Iter) (index : ℕ) (out : List MenuItem) : Option (ℕ × List MenuItem) := do
  let text ← entry.getString
  let iconId ← entry.next.getByte
  let item ← out[index]?
  let out := out.set index { item with text := snprintf maxStkMenuTextLen text }
  let item ← out[index + 1]?
  return (index + 2, out.set (index + 1) { item with iconId := iconId })

/-- The loop of `tapi_stk_get_main_menu`: the number of items, and the caller's array. `entry`
stands inside the value that `array` stands at. -/
def mainMenuLoop (length : ℤ) (array entry : Iter) (index : ℕ) (out : List MenuItem) :
    Option (ℤ × List MenuItem) :=
  match entry.argType with
  | .invalid => some (index, out)
  | type =>
    let stored := if type = .struct then storeItem entry index out else some (index, out)
    match stored with
    | none => none
    | some (index, out) =>
      if index ≥ length ∨ index ≥ maxStkMainMenuLength then some (index, out)
      else
        match array with
        | [] => none
        | _ :: rest =>
          (Iter.recurse rest).bind fun entry => mainMenuLoop length rest entry index out

/-- `tapi_stk_get_main_menu`: the return value, and the caller's array. `property` is what
`g_dbus_proxy_get_property` finds. -/
def tapiStkGetMainMenu (cfg : Config) (property : Ptr → String → Option Iter)
    (context : Option DbusContext) (slotId length : ℤ) (out : List MenuItem) :
    Option (ℤ × List MenuItem) :=
  match context with
  | none => some (-einval, out)
  | some ctx =>
    if !isValidSlotid cfg slotId then some (-einval, out)
    else if length ≤ 0 then some (-einval, out)
    else if !ctx.clientReady then some (-eagain, out)
    else
      let proxy := ctx.dbusProxy slotId.toNat .stk
      if proxy = null then some (-eio, out)
      else
        match property proxy "MainMenu" with
        | none => some (-eio, out)
        | some array =>
          if array.argType = .array then
            array.recurse.bind fun entry => mainMenuLoop length array entry 0 out
          else some (0, out)

/-! ## What is to be reported -/

/-- The item with its text cut to the length of the field. -/
def MenuItem.cut (i : MenuItem) : MenuItem := { i with text := snprintf maxStkMenuTextLen i.text }

/-- The items at the head of a menu, as many as there is room for. -/
def menuHead (items : List MenuItem) (room : ℕ) : List MenuItem :=
  (items.take (min room maxStkMainMenuLength)).map MenuItem.cut

/-- The value of a menu. -/
def menuValue (items : List MenuItem) : Value := .array itemTy (items.map itemValue)

/-- The caller of `tapi_stk_get_main_menu` learns the head of the menu and its length, and
whatever is written lies in its array. -/
def ReportsMainMenu (items : List MenuItem) : Prop :=
  ∀ (cfg : Config) (property : Ptr → String → Option Iter) (ctx : DbusContext) (slotId : ℤ)
    (out : List MenuItem),
    isValidSlotid cfg slotId = true → out ≠ [] → ctx.clientReady = true →
    ctx.dbusProxy slotId.toNat .stk ≠ null →
    property (ctx.dbusProxy slotId.toNat .stk) "MainMenu" = some [menuValue items] →
    tapiStkGetMainMenu cfg property (some ctx) slotId out.length out =
      some (((menuHead items out.length).length : ℤ),
        menuHead items out.length ++ out.drop (menuHead items out.length).length)

/-- The application gets the title, the icon, the default and the head of the menu of a
selection. -/
def ReportsSelection (items : List MenuItem) : Prop :=
  ∀ (ctx : DbusContext) (handler : AsyncHandler AgentData) (msg : Message) (mem : Memory)
    (title : String) (iconId defaultItem : ℤ),
    handler.cbFunction ≠ null → handler.result.data = .context → ctx.pending = .null →
    mem.params = true → msg.isError = false →
    msg.args = (AgentParams.requestSelection title iconId items defaultItem).values →
    ∃ outcome ar, stkAgentHandleRequestSelection ctx handler msg mem = some outcome ∧
      outcome.delivered = [ar] ∧ ar.status = ok ∧ ar.data = .params (.requestSelection title iconId
        (menuHead items maxStkMainMenuLength) defaultItem)

/-! ## What is reported -/

section

variable {items : List MenuItem} {out : List MenuItem}

@[simp] theorem menuHead_nil (room : ℕ) : menuHead [] room = [] := by simp [menuHead]

/-- There is room for the first item. -/
theorem menuHead_eq_nil_iff {room : ℕ} (hpos : 0 < room) :
    menuHead items room = [] ↔ items = [] := by
  have hmin : min room maxStkMainMenuLength ≠ 0 := by
    simp only [maxStkMainMenuLength]
    omega
  simp [menuHead, hmin]

/-- The loop ends at once, or stops at the first item, which is not a text. -/
theorem mainMenuLoop_items (length : ℤ) (array : Iter) :
    mainMenuLoop length array (items.map itemValue) 0 out =
      if items = [] then some (0, out) else none := by
  cases items with
  | nil =>
    unfold mainMenuLoop
    rfl
  | cons i items =>
    unfold mainMenuLoop
    rfl

theorem tapiStkGetMainMenu_of_menuValue {cfg : Config}
    {property : Ptr → String → Option Iter} {ctx : DbusContext} {slotId length : ℤ}
    (hslot : isValidSlotid cfg slotId = true) (hpos : 0 < length)
    (hready : ctx.clientReady = true) (hproxy : ctx.dbusProxy slotId.toNat .stk ≠ null)
    (hvalue : property (ctx.dbusProxy slotId.toNat .stk) "MainMenu" = some [menuValue items]) :
    tapiStkGetMainMenu cfg property (some ctx) slotId length out =
      if items = [] then some (0, out) else none := by
  have hlength : ¬ length ≤ 0 := by omega
  rw [← mainMenuLoop_items length [menuValue items]]
  simp [tapiStkGetMainMenu, hslot, hlength, hready, hproxy, hvalue, menuValue, Iter.argType,
    Iter.recurse]

theorem reportsMainMenu_iff : ReportsMainMenu items ↔ items = [] := by
  constructor
  · intro h
    by_contra hne
    have hread := h twoModems (fun _ _ => some [menuValue items]) idleContext 0 [⟨"", 0⟩]
      (by decide) (by decide) rfl (by decide) rfl
    rw [tapiStkGetMainMenu_of_menuValue (by decide) (by decide) rfl (by decide) rfl,
      if_neg hne] at hread
    contradiction
  · rintro rfl cfg property ctx slotId out hslot hout hready hproxy hvalue
    have hpos : (0 : ℤ) < out.length := by
      have := List.length_pos_iff.mpr hout
      omega
    rw [tapiStkGetMainMenu_of_menuValue hslot hpos hready hproxy hvalue]
    simp

/-- A selection is accepted with whatever menu it has, and delivered without its items. -/
theorem stkAgentHandleRequestSelection_eq {ctx : DbusContext} {handler : AsyncHandler AgentData}
    {msg : Message} {mem : Memory} {title : String} {iconId defaultItem : ℤ}
    (hcb : handler.cbFunction ≠ null) (hdata : handler.result.data = .context)
    (hpending : ctx.pending = .null) (hmem : mem.params = true) (herror : msg.isError = false)
    (hargs : msg.args = (AgentParams.requestSelection title iconId items defaultItem).values) :
    stkAgentHandleRequestSelection ctx handler msg mem =
      some (accept ctx
        { handler.result with msgId := IndicationMsg.stkAgentRequestSelection.value } msg
        (.requestSelection title iconId [] defaultItem)) := by
  have hne : (AgentParams.requestSelection title iconId items defaultItem).values ≠ [] :=
    List.cons_ne_nil _ _
  simp [stkAgentHandleRequestSelection, hcb, herror, hne, readContext, hdata, reserve, hpending,
    hmem, hargs, getSelection_values]

/-- A selection with a menu, as the modem service sends it. -/
def selectionCall (items : List MenuItem) : Message where
  type := .methodCall
  member := "RequestSelection"
  args := (AgentParams.requestSelection "" 0 items 0).values
  typed := by
    simp [AgentParams.values, Value.typed]

theorem reportsSelection_iff : ReportsSelection items ↔ items = [] := by
  constructor
  · intro h
    -- on an idle context that accepts it, the callback sees the head of the menu
    let handler : AsyncHandler AgentData := ⟨⟨0, 0, 0, 0, 0, .context, 0⟩, 1⟩
    obtain ⟨outcome, ar, hrun, hdelivered, -, hparams⟩ :=
      h idleContext handler (selectionCall items) {} "" 0 0 (by decide) rfl rfl rfl rfl rfl
    rw [stkAgentHandleRequestSelection_eq (by decide) rfl rfl rfl rfl rfl] at hrun
    rw [← Option.some_inj.mp hrun] at hdelivered
    obtain rfl := List.singleton_inj.mp hdelivered
    have hitems : [] = menuHead items maxStkMainMenuLength := by
      simpa [accept] using hparams
    exact (menuHead_eq_nil_iff (by decide)).mp hitems.symm
  · rintro rfl ctx handler msg mem title iconId defaultItem hcb hdata hpending hmem herror hargs
    rw [menuHead_nil]
    exact ⟨_, _, stkAgentHandleRequestSelection_eq hcb hdata hpending hmem herror hargs, rfl, rfl,
      rfl⟩

end

/-- A menu is reported exactly if it is empty, be it the main menu or that of a selection. -/
theorem reportsMenu_iff (items : List MenuItem) :
    (ReportsMainMenu items ↔ items = []) ∧ (ReportsSelection items ↔ items = []) :=
  ⟨reportsMainMenu_iff, reportsSelection_iff⟩

/-- Neither function reports a menu of one item. -/
theorem not_reportsMenu_balance :
    ¬ ReportsMainMenu [⟨"Balance", 1⟩] ∧ ¬ ReportsSelection [⟨"Balance", 1⟩] :=
  ⟨fun h => List.cons_ne_nil _ _ (reportsMainMenu_iff.mp h),
    fun h => List.cons_ne_nil _ _ (reportsSelection_iff.mp h)⟩

end Telephony.Stk
