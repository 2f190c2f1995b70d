import JourneyCost.Proofs.Map.Failing
import JourneyCost.Proofs.Route.Parsing
import JourneyCost.Proofs.Route.Trip

/-!
# Faults that are handed on

Some faults of finding a route are made up on the way: an endpoint without a place, directions
refused with a status, ends that cannot be moved, a route without points.  All others come from the
reading of a reply and are handed on.  None of these can be taken for one that was made up.
-/

namespace JourneyCost

open Net Map

namespace Route

/-- A fault that finding a route hands on and does not make up. -/
structure HandedOn (fault : Fault) : Prop where
  /-- It is not that of an endpoint without a place. -/
  placed : fault ≠ .geocodeFailed
  /-- It does not name the status of directions. -/
  served : ∀ message status k, fault ≠ .providerFailed message status (statusReason k)
  /-- If it is about a route, then about the text of directions. -/
  parsed : ∀ message reason, fault = .routeUnavailable message reason →
    reason = "directions_parse_error"
  /-- It is not about a parameter of the request. -/
  accepted : fault.isInvalidInput = false

variable {client : Client} {reply : Reply} {fault : Fault}

theorem toDigits_inj {m n : Nat} (same : Nat.toDigits 10 m = Nat.toDigits 10 n) : m = n := by
  have values := congrArg (fun digits => Nat.ofDigitChars 10 digits 0) same
  simpa only [Nat.ofDigitChars_toDigits (by decide : 1 < 10) (by decide : 10 ≤ 10)] using values

theorem toList_toString (k : Int) :
    (toString k).toList =
      if 0 ≤ k then Nat.toDigits 10 k.toNat else '-' :: Nat.toDigits 10 (-k).toNat := by
  rw [Int.toString_eq_repr, Int.repr_eq_if]
  split
  · rw [Nat.toList_repr]
  · rw [String.toList_append, Nat.toList_repr]
    rfl

theorem sign_not_mem_toDigits (n : Nat) : '-' ∉ Nat.toDigits 10 n := by
  intro member
  have digit := Nat.isDigit_of_mem_toDigits (by decide) (by decide) member
  exact absurd digit (by decide)

/-- Different integers are written differently. -/
theorem eq_of_toList_toString {j k : Int}
    (same : (toString j).toList = (toString k).toList) : j = k := by
  rw [toList_toString, toList_toString] at same
  split at same <;> split at same
  · have values := toDigits_inj same
    omega
  · exact absurd (same ▸ List.mem_cons_self) (sign_not_mem_toDigits j.toNat)
  · exact absurd (same ▸ List.mem_cons_self) (sign_not_mem_toDigits k.toNat)
  · have values := toDigits_inj (List.cons.inj same).2
    omega

theorem toList_statusReason (k : Int) :
    (statusReason k).toList = "directions_http_".toList ++ (toString k).toList := by
  exact String.toList_append

/-- Different statuses are named by different reasons. -/
theorem statusReason_inj {j k : Int} : statusReason j = statusReason k ↔ j = k := by
  constructor
  · intro same
    have letters := congrArg String.toList same
    rw [toList_statusReason, toList_statusReason] at letters
    exact eq_of_toList_toString (List.append_cancel_left letters)
  · rintro rfl
    rfl

/-- A reason that names the status of directions does not begin like others. -/
theorem ne_statusReason {reason : String}
    (begins : reason.toList.take 16 ≠ "directions_http_".toList) (k : Int) :
    reason ≠ statusReason k := by
  rintro rfl
  apply begins
  rw [toList_statusReason]
  exact List.take_left' rfl

theorem parseError_ne_statusReason (k : Int) : "directions_parse_error" ≠ statusReason k :=
  ne_statusReason (by decide +kernel) k

theorem noPoints_ne_statusReason (k : Int) : "route_has_no_points" ≠ statusReason k :=
  ne_statusReason (by decide +kernel) k

theorem notMoved_ne_statusReason (k : Int) : "could_not_snap_points" ≠ statusReason k :=
  ne_statusReason (by decide +kernel) k

theorem handedOn_providerFailed {message reason : String} {status : Option Int}
    (begins : reason.toList.take 16 ≠ "directions_http_".toList) :
    HandedOn (.providerFailed message status reason) where
  placed := by simp
  served _ _ k same := ne_statusReason begins k (Fault.providerFailed.inj same).2.2
  parsed := by simp
  accepted := rfl

theorem handedOn_parseFault (message : String) : HandedOn (parseFault message) where
  placed := by simp [parseFault]
  served := by simp [parseFault]
  parsed _ _ same := (Fault.routeUnavailable.inj same).2.symm
  accepted := rfl

theorem isInvalidInput_of_not_isTripFault (foreign : fault.isTripFault = false) :
    fault.isInvalidInput = false := by
  cases fault <;> first | rfl | cases foreign

/-- A fault outside the vocabulary of trip estimation is handed on. -/
theorem handedOn_of_not_isTripFault (foreign : fault.isTripFault = false) : HandedOn fault where
  placed := by
    rintro rfl
    cases foreign
  served := by
    rintro message status k rfl
    cases foreign
  parsed := by
    rintro message reason rfl
    cases foreign
  accepted := isInvalidInput_of_not_isTripFault foreign

theorem handedOn_of_contents (failed : client.contents reply = .error fault) : HandedOn fault := by
  cases reply with
  | answer status body => cases failed
  | dropped kind =>
      obtain rfl := Except.error.inj failed
      apply handedOn_providerFailed
      cases client.provider with
      | ola => decide +kernel
      | ors => decide +kernel
  | badAddress =>
      obtain rfl := Except.error.inj failed
      exact handedOn_of_not_isTripFault rfl

theorem handedOn_of_readPlace {status : Int} {body : Bytes}
    (failed : client.readPlace status body = .error fault) : HandedOn fault := by
  unfold Client.readPlace at failed
  split at failed
  · obtain rfl := Except.error.inj failed
    apply handedOn_providerFailed
    rw [String.toList_append]
    simp
  · split at failed
    · obtain ⟨rfl, -⟩ := Geo.firstFeature_eq_error_iff.mp failed
      exact handedOn_of_not_isTripFault rfl
    · rename_i cause refused
      rw [if_pos (Json.isMalformed_of_readBytes refused)] at failed
      obtain rfl := Except.error.inj failed
      exact handedOn_providerFailed (by decide +kernel)

theorem handedOn_of_placeIn (failed : client.placeIn reply = .error fault) : HandedOn fault := by
  rcases bind_eq_error.mp failed with unanswered | ⟨content, -, unread⟩
  · exact handedOn_of_contents unanswered
  · exact handedOn_of_readPlace unread

theorem handedOn_of_directionsIn (failed : client.directionsIn reply = .error fault) :
    HandedOn fault := by
  rcases bind_eq_error.mp failed with unanswered | ⟨content, -, returned⟩
  · exact handedOn_of_contents unanswered
  · cases returned

theorem handedOn_of_snappedIn (failed : client.snappedIn reply = .error fault) :
    HandedOn fault := by
  by_cases called : reply = .badAddress
  · subst called
    obtain rfl := Except.error.inj failed
    exact handedOn_of_not_isTripFault rfl
  · cases (Client.snappedIn_eq_error_iff called).mp failed with
    | noList => exact handedOn_of_not_isTripFault rfl
    | hugeItem => exact handedOn_of_not_isTripFault rfl

theorem handedOn_of_nearestIn (failed : client.nearestIn reply = .error fault) :
    HandedOn fault := by
  by_cases called : reply = .badAddress
  · subst called
    obtain rfl := Except.error.inj failed
    exact handedOn_of_not_isTripFault rfl
  · obtain ⟨rfl, -⟩ := (Client.nearestIn_eq_error_iff called).mp failed
    exact handedOn_of_not_isTripFault rfl

theorem isTripFault_of_breaks {payload : Fields} (breaks : Breaks payload fault) :
    fault.isTripFault = false := by
  cases breaks with
  | keyed | noList | figure => rfl
  | geometry first fit tried breaks => cases breaks <;> rfl

theorem handedOn_of_ofText {provider : Provider} {text : String}
    (failed : ofText text provider.precisions = .error fault) : HandedOn fault := by
  by_cases isObject : ∃ payload, Json.read text = .ok (.object payload)
  · obtain ⟨payload, read⟩ := isObject
    rw [ofText_of_read read, ofPayload_eq_error_iff (areUsable_precisions provider)] at failed
    exact handedOn_of_not_isTripFault (isTripFault_of_breaks failed)
  · obtain ⟨message, refused⟩ := ofText_of_no_object (not_exists.mp isObject)
    rw [failed] at refused
    obtain rfl := Except.error.inj refused
    exact handedOn_parseFault message

end Route

end JourneyCost
