import RemoteConsole.Rpc.Response

/-!
# What an answer says

Every status with every body says one of three things: the session is gone, the call failed and may
be made again, or the call has a result.

* `Rpc.Carries`: the answer has members.
* `Rpc.Yields`, `Rpc.IsRevoked`, `Rpc.IsSetback`: the three, by status and members.
* `Rpc.answer_cases`: there is no fourth.
* `Rpc.Reading`: what is read from an answer, one case for each of the three (`reading`). The kind
  is told by what is read: `parseResponse_ok_iff`, `parseResponse_terminal_iff`,
  `parseResponse_transient_iff`.
-/

namespace RemoteConsole.Rpc

/-- The call reached its method, and the body is an object with these members. -/
structure Carries (status : Nat) (body : String) (members : List (String × Json)) : Prop where
  success : 200 ≤ status ∧ status ≤ 299
  parsed : Json.parse body = .ok (.object members)

/-- The call has the result `v`: there is no error, or it is null; a missing result is null. -/
def Yields (status : Nat) (body : String) (v : Json) : Prop :=
  ∃ members, Carries status body members ∧
    (Json.lookup "error" members = none ∨ Json.lookup "error" members = some .null) ∧
    (Json.lookup "result" members).getD .null = v

/-- The member `error` is an object with an integer as its code, which says that the session is
gone. -/
def Revokes (error : Json) : Prop :=
  ∃ fields code, error = .object fields ∧ Json.lookup "code" fields = some (.int code) ∧
    code ∈ ([401, 403, 410, 501] : List Int)

/-- The session is gone, by the status or by the member `error`. -/
def IsRevoked (status : Nat) (body : String) : Prop :=
  (¬ (200 ≤ status ∧ status ≤ 299) ∧ status ∈ [401, 403, 410, 501]) ∨
    ∃ members error, Carries status body members ∧ Json.lookup "error" members = some error ∧
      Revokes error

/-- The call failed otherwise: any other status that is no success, a body that is no object, or
any other error that is not null. -/
def IsSetback (status : Nat) (body : String) : Prop :=
  (¬ (200 ≤ status ∧ status ≤ 299) ∧ status ∉ [401, 403, 410, 501]) ∨
    ((200 ≤ status ∧ status ≤ 299) ∧ ∀ members, Json.parse body ≠ .ok (.object members)) ∨
    ∃ members error, Carries status body members ∧ Json.lookup "error" members = some error ∧
      error ≠ .null ∧ ¬ Revokes error

variable {status : Nat} {body : String}

/-- There is no answer that says nothing. -/
theorem answer_cases (status : Nat) (body : String) :
    IsRevoked status body ∨ IsSetback status body ∨ ∃ v, Yields status body v := by
  by_cases hsuccess : 200 ≤ status ∧ status ≤ 299
  · by_cases hmembers : ∃ members, Json.parse body = .ok (.object members)
    · obtain ⟨members, hparsed⟩ := hmembers
      have hcarries : Carries status body members := ⟨hsuccess, hparsed⟩
      cases herror : Json.lookup "error" members with
      | none => exact .inr (.inr ⟨_, members, hcarries, .inl herror, rfl⟩)
      | some error =>
        by_cases hnull : error = .null
        · exact .inr (.inr ⟨_, members, hcarries, .inr (hnull ▸ herror), rfl⟩)
        · by_cases hrevokes : Revokes error
          · exact .inl (.inr ⟨members, error, hcarries, herror, hrevokes⟩)
          · exact .inr (.inl (.inr (.inr ⟨members, error, hcarries, herror, hnull, hrevokes⟩)))
    · exact .inr (.inl (.inr (.inl ⟨hsuccess, not_exists.mp hmembers⟩)))
  · by_cases hcode : status ∈ [401, 403, 410, 501]
    · exact .inl (.inl ⟨hsuccess, hcode⟩)
    · exact .inr (.inl (.inl ⟨hsuccess, hcode⟩))

/-! ## Reading an answer -/

theorem isSuccess_iff : isSuccess status = true ↔ 200 ≤ status ∧ status ≤ 299 := by
  unfold isSuccess
  simp only [Bool.and_eq_true, decide_eq_true_eq]
  omega

theorem parseResponse_status (h : ¬ (200 ≤ status ∧ status ≤ 299)) :
    parseResponse status body = .error (statusError status body) :=
  if_neg fun hsuccess => h (isSuccess_iff.mp hsuccess)

theorem Carries.parseResponse_eq {members : List (String × Json)}
    (h : Carries status body members) : parseResponse status body = resultOf members := by
  unfold parseResponse
  rw [if_pos (isSuccess_iff.mpr h.success), h.parsed]

/-- A body that is no object is read as an answer that could not be read. -/
theorem parseResponse_unreadable (h : 200 ≤ status ∧ status ≤ 299)
    (hbody : ∀ members, Json.parse body ≠ .ok (.object members)) :
    ∃ message, parseResponse status body = .error (.unreadable message) := by
  unfold parseResponse
  rw [if_pos (isSuccess_iff.mpr h)]
  split
  · exact ⟨_, rfl⟩
  · next members hparsed => exact absurd hparsed (hbody members)
  · exact ⟨_, rfl⟩

/-- A code is an integer of 32 bits, and nothing else is one. -/
theorem codeOf_eq_some {v : Json} {n : Int} :
    codeOf v = some n ↔ v = .int n ∧ -0x80000000 ≤ n ∧ n < 0x80000000 := by
  unfold codeOf
  constructor
  · intro h
    obtain ⟨m, hm, hn⟩ := Option.bind_eq_some_iff.mp h
    have hbounds : -0x80000000 ≤ m ∧ m < 0x80000000 := by
      refine Decidable.byContradiction fun hout => ?_
      rw [if_neg hout] at hn
      cases hn
    rw [if_pos hbounds] at hn
    cases hn
    refine ⟨?_, hbounds⟩
    unfold Json.asInt64? at hm
    split at hm
    · split at hm
      · cases hm; rfl
      · cases hm
    · cases hm
  · rintro ⟨rfl, hbounds⟩
    have hword : n < 0x8000000000000000 := by omega
    have hint : (Json.int n).asInt64? = some n := if_pos hword
    rw [hint, Option.bind_some, if_pos hbounds]

/-- The failure of an error is terminal if and only if the error says that the session is gone. -/
theorem memberError_isTerminal_iff (error : Json) :
    (memberError error).isTerminal = true ↔ Revokes error := by
  unfold FetchError.isTerminal memberError FetchError.terminalCodes
  rw [List.contains_iff_mem]
  dsimp only
  cases hcode : (error.get? "code").bind codeOf with
  | none =>
    refine iff_of_false (by decide) ?_
    rintro ⟨fields, code, rfl, hlookup, hmem⟩
    have hbounds : -0x80000000 ≤ code ∧ code < 0x80000000 := by
      simp only [List.mem_cons, List.not_mem_nil, or_false] at hmem
      omega
    rw [show (Json.object fields).get? "code" = _ from hlookup, Option.bind_some,
      codeOf_eq_some.mpr ⟨rfl, hbounds⟩] at hcode
    cases hcode
  | some code =>
    obtain ⟨v, hget, hof⟩ := Option.bind_eq_some_iff.mp hcode
    obtain ⟨rfl, -⟩ := codeOf_eq_some.mp hof
    cases error with
    | object fields =>
      refine ⟨fun hmem => ⟨fields, code, rfl, hget, hmem⟩, ?_⟩
      rintro ⟨_, code', herror, hlookup, hmem⟩
      cases herror
      cases hlookup.symm.trans hget
      exact hmem
    | null | bool | number | string | array => cases hget

theorem resultOf_error {members : List (String × Json)} {error : Json}
    (h : Json.lookup "error" members = some error) (hnull : error ≠ .null) :
    resultOf members = .error (memberError error) := by
  unfold resultOf
  rw [h]
  cases error with
  | null => exact absurd rfl hnull
  | bool | number | string | array | object => rfl

theorem Yields.parseResponse_eq {v : Json} (h : Yields status body v) :
    parseResponse status body = .ok v := by
  obtain ⟨members, hcarries, herror, rfl⟩ := h
  rw [hcarries.parseResponse_eq]
  unfold resultOf
  rcases herror with herror | herror <;> rw [herror]

theorem statusError_isTerminal_iff (status : Nat) (body : String) :
    (statusError status body).isTerminal = true ↔ status ∈ [401, 403, 410, 501] := by
  unfold FetchError.isTerminal FetchError.terminalCodes
  rw [List.contains_iff_mem]
  show (status : Int) ∈ ([401, 403, 410, 501] : List Int) ↔ _
  simp only [List.mem_cons, List.not_mem_nil, or_false]
  omega

theorem IsRevoked.parseResponse_eq (h : IsRevoked status body) :
    ∃ e, parseResponse status body = .error e ∧ e.isTerminal = true := by
  rcases h with ⟨hstatus, hmem⟩ | ⟨members, error, hcarries, herror, hrevokes⟩
  · exact ⟨_, parseResponse_status hstatus, (statusError_isTerminal_iff status body).mpr hmem⟩
  · have hnull : error ≠ .null := by
      obtain ⟨fields, code, rfl, -⟩ := hrevokes
      nofun
    exact ⟨_, hcarries.parseResponse_eq.trans (resultOf_error herror hnull),
      (memberError_isTerminal_iff error).mpr hrevokes⟩

theorem IsSetback.parseResponse_eq (h : IsSetback status body) :
    ∃ e, parseResponse status body = .error e ∧ e.isTerminal = false := by
  rcases h with ⟨hstatus, hmem⟩ | ⟨hsuccess, hbody⟩ | ⟨members, error, hcarries, herror, hnull, hne⟩
  · refine ⟨_, parseResponse_status hstatus, Bool.eq_false_iff.mpr fun hterminal => hmem ?_⟩
    exact (statusError_isTerminal_iff status body).mp hterminal
  · obtain ⟨message, hparse⟩ := parseResponse_unreadable hsuccess hbody
    exact ⟨_, hparse, rfl⟩
  · refine ⟨_, hcarries.parseResponse_eq.trans (resultOf_error herror hnull), ?_⟩
    exact Bool.eq_false_iff.mpr fun hterminal =>
      hne ((memberError_isTerminal_iff error).mp hterminal)

/-! ## The three kinds of answer -/

/-- What an answer is read as, one case for each kind. -/
inductive Reading (status : Nat) (body : String) : Except FetchError Json → Prop
  | revoked {e : FetchError} (h : IsRevoked status body) (he : e.isTerminal = true) :
      Reading status body (.error e)
  | setback {e : FetchError} (h : IsSetback status body) (he : e.isTerminal = false) :
      Reading status body (.error e)
  | result {v : Json} (h : Yields status body v) : Reading status body (.ok v)

theorem reading (status : Nat) (body : String) :
    Reading status body (parseResponse status body) := by
  rcases answer_cases status body with hrevoked | hsetback | ⟨v, hyields⟩
  · obtain ⟨e, hparse, he⟩ := hrevoked.parseResponse_eq
    rw [hparse]
    exact .revoked hrevoked he
  · obtain ⟨e, hparse, he⟩ := hsetback.parseResponse_eq
    rw [hparse]
    exact .setback hsetback he
  · rw [hyields.parseResponse_eq]
    exact .result hyields

theorem parseResponse_ok_iff {v : Json} :
    parseResponse status body = .ok v ↔ Yields status body v := by
  refine ⟨fun hparse => ?_, Yields.parseResponse_eq⟩
  have hreading := reading status body
  rw [hparse] at hreading
  cases hreading with
  | result h => exact h

theorem parseResponse_terminal_iff :
    (∃ e, parseResponse status body = .error e ∧ e.isTerminal = true) ↔ IsRevoked status body := by
  refine ⟨fun ⟨e, hparse, hterminal⟩ => ?_, IsRevoked.parseResponse_eq⟩
  have hreading := reading status body
  rw [hparse] at hreading
  cases hreading with
  | revoked h => exact h
  | setback _ he => rw [he] at hterminal; cases hterminal

theorem parseResponse_transient_iff :
    (∃ e, parseResponse status body = .error e ∧ e.isTerminal = false) ↔
      IsSetback status body := by
  refine ⟨fun ⟨e, hparse, htransient⟩ => ?_, IsSetback.parseResponse_eq⟩
  have hreading := reading status body
  rw [hparse] at hreading
  cases hreading with
  | revoked _ he => rw [he] at htransient; cases htransient
  | setback h => exact h

end RemoteConsole.Rpc
