import Telephony.Call.Reply
import Telephony.Dictionary
import Telephony.Data.Reply
import Telephony.Network.Reply

/-!
# The order of properties

oFono sends the properties of calls, registrations, cells, operators and contexts as dictionaries.
Each of the five decoders sets a part of its structure for every key that it knows, so that the
order in which they come does not matter.

## Main results

* `Call.commutes_callInfoProperties` and its companions — any two properties of a decoder can be
  used in either order
* `Telephony.decoders_rearranged` — the decoders make the same of rearranged dictionaries
-/

namespace Telephony

open DBus PropertyTable

/-! ## Any two properties -/

theorem Call.commutes_callInfoProperties : Commutes Call.callInfoProperties := by
  simp only [Commutes, callInfoProperties, List.pairwise_cons, List.forall_mem_cons,
    List.not_mem_nil, false_implies, implies_true, List.Pairwise.nil, and_true]
  and_intros
  -- the fields of two properties are different ones
  all_goals exact Property.commutes_of_map (fun _ _ => rfl) (fun _ _ => rfl) fun _ _ _ => rfl

theorem Network.commutes_registrationInfoProperties (heap : Heap) :
    Commutes (Network.registrationInfoProperties heap) := by
  simp only [Commutes, registrationInfoProperties, List.pairwise_cons, List.forall_mem_cons,
    List.not_mem_nil, false_implies, implies_true, List.Pairwise.nil, and_true]
  and_intros
  all_goals exact Property.commutes_of_map (fun _ _ => rfl) (fun _ _ => rfl) fun _ _ _ => rfl

theorem Network.commutes_cellIdentityProperties : Commutes Network.cellIdentityProperties := by
  simp only [Commutes, cellIdentityProperties, List.pairwise_cons, List.forall_mem_cons,
    List.not_mem_nil, false_implies, implies_true, List.Pairwise.nil, and_true]
  and_intros
  all_goals exact Property.commutes_of_map (fun _ _ => rfl) (fun _ _ => rfl) fun _ _ _ => rfl

theorem Network.commutes_operatorInfoProperties : Commutes Network.operatorInfoProperties := by
  simp only [Commutes, operatorInfoProperties, List.pairwise_cons, List.forall_mem_cons,
    List.not_mem_nil, false_implies, implies_true, List.Pairwise.nil, and_true]
  and_intros
  all_goals exact Property.commutes_optionalText fun _ _ _ => rfl

theorem Data.commutes_contextProperties (blocks : Data.ContextBlocks) :
    Commutes (Data.contextProperties blocks) := by
  have hall : Commutes (dataContextProperties ++ settingsProperties blocks) := by
    simp only [Commutes, dataContextProperties, settingsProperties, List.cons_append,
      List.nil_append, List.pairwise_cons, List.forall_mem_cons, List.not_mem_nil, false_implies,
      implies_true, List.Pairwise.nil, and_true]
    and_intros
    any_goals exact Property.commutes_of_map (fun _ _ => rfl) (fun _ _ => rfl) fun _ _ _ => rfl
    -- the two kinds of settings are parts of one block
    refine Property.commutes_of_map (fun _ _ => rfl) (fun _ _ => rfl) fun ipv4 ipv6 dc => ?_
    simp [Option.map_map, Function.comp_def]
  unfold contextProperties
  split
  · exact hall
  · exact (List.pairwise_append.mp hall).1

/-! ## Rearranged dictionaries -/

section Rearranged

variable {ps qs : List (String × Value)} (hkeys : (ps.map Prod.fst).Nodup)
include hkeys

theorem Call.decodeVoiceCallInfo_rearranged (h : Rearranged Call.callInfoProperties ps qs)
    (path : String) :
    decodeVoiceCallInfo [.objectPath path, dict ps] =
      decodeVoiceCallInfo [.objectPath path, dict qs] := by
  simp only [decodeVoiceCallInfo, Iter.getString, Iter.next, List.tail_cons, Iter.recurse, dict,
    Option.bind_some, readAll_of_rearranged commutes_callInfoProperties hkeys h]

/-- The five decoders make the same of two dictionaries that have the same known entries. -/
theorem decoders_rearranged :
    (Rearranged Call.callInfoProperties ps qs → ∀ path,
      Call.decodeVoiceCallInfo [.objectPath path, dict ps] =
        Call.decodeVoiceCallInfo [.objectPath path, dict qs]) ∧
    (∀ heap, Rearranged (Network.registrationInfoProperties heap) ps qs → ∀ info,
      Network.fillRegistrationInfo heap (ps.map entry) info =
        Network.fillRegistrationInfo heap (qs.map entry) info) ∧
    (Rearranged Network.cellIdentityProperties ps qs → ∀ cell,
      Network.fillCellIdentityList (ps.map entry) cell =
        Network.fillCellIdentityList (qs.map entry) cell) ∧
    (Rearranged Network.operatorInfoProperties ps qs → ∀ op,
      Network.fillOperatorList (ps.map entry) op =
        Network.fillOperatorList (qs.map entry) op) ∧
    (∀ blocks, Rearranged (Data.contextProperties blocks) ps qs → ∀ dc,
      Data.updateDataContexts blocks (ps.map entry) dc =
        Data.updateDataContexts blocks (qs.map entry) dc) := by
  refine ⟨Call.decodeVoiceCallInfo_rearranged hkeys, ?_, ?_, ?_, ?_⟩
  · intro heap h info
    exact readAll_of_rearranged (Network.commutes_registrationInfoProperties heap) hkeys h info
  · intro h cell
    exact readAll_of_rearranged Network.commutes_cellIdentityProperties hkeys h cell
  · intro h op
    exact readAll_of_rearranged Network.commutes_operatorInfoProperties hkeys h op
  · intro blocks h dc
    exact readAll_of_rearranged (Data.commutes_contextProperties blocks) hkeys h dc

end Rearranged

/-- A registration with a vendor's property behind its state. -/
def sampleRegistration : List (String × Value) :=
  [("Status", .string "roaming"), ("MobileCountryCode", .string "460"), ("Vendor", .byte 7)]

/-- The country comes first, and the vendor's property is missing. -/
theorem decoders_rearranged_sampleRegistration :
    (sampleRegistration.map Prod.fst).Nodup ∧ ∀ heap info,
      Network.fillRegistrationInfo heap (sampleRegistration.map entry) info =
        Network.fillRegistrationInfo heap
          ([("MobileCountryCode", .string "460"), ("Status", .string "roaming")].map entry)
          info := by
  have hkeys : (sampleRegistration.map Prod.fst).Nodup := by decide
  refine ⟨hkeys, fun heap info => (decoders_rearranged hkeys).2.1 heap ?_ info⟩
  have hvendor : ∀ p ∈ [("Vendor", Value.byte 7)],
      knows (Network.registrationInfoProperties heap) p.1 = false := by
    intro p hp
    obtain rfl := List.mem_singleton.mp hp
    rfl
  exact Rearranged.of_unknown (List.Perm.swap _ _ _) hvendor

end Telephony
