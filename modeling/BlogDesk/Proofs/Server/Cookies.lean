import BlogDesk.Proofs.Server.Lifetime
import BlogDesk.Proofs.Text

/-!
# Cookies there and back

The id of a session that the service puts into a cookie is what the visitor's jar
takes out of it, and what the jar puts into a request is what the service finds, for
ids without blanks and semicolons.
-/

namespace BlogDesk.Server

-- ---- Ids

def isIdChar (c : Char) : Bool := '!' ≤ c && c < '\x7f' && c != ';'

def IsPlainId (id : String) : Prop := id.toList.all isIdChar

theorem isPlainId_longerIds (issued : Nat) : IsPlainId (Network.longerIds issued) := by
  rw [IsPlainId, Network.longerIds, String.toList_ofList, List.all_replicate,
    if_neg (Nat.succ_ne_zero issued)]
  decide

theorem isIdChar_iff {c : Char} : isIdChar c ↔ ('!' ≤ c ∧ c < '\x7f') ∧ c ≠ ';' := by
  simp [isIdChar]

theorem not_blank_of_isIdChar {c : Char} (h : isIdChar c) : isHeaderBlank c = false := by
  rw [Bool.eq_false_iff]
  intro hblank
  rcases (Bool.or_eq_true ..).mp hblank with hspace | htab
  · rw [beq_iff_eq.mp hspace] at h
    exact absurd h (by decide)
  · rw [beq_iff_eq.mp htab] at h
    exact absurd h (by decide)

theorem printable_of_isIdChar {c : Char} (h : isIdChar c) : ' ' ≤ c ∧ c < '\x7f' := by
  obtain ⟨⟨hlow, hhigh⟩, -⟩ := isIdChar_iff.mp h
  exact ⟨Char.le_trans (by decide) hlow, hhigh⟩

-- ---- Text

theorem trim_of_no_blank {blank : Char → Bool} {text : List Char}
    (h : ∀ c ∈ text, blank c = false) : Text.trim blank text = text := by
  have htrimmed : Text.IsTrimmed blank text :=
    ⟨fun c hc => h c (List.mem_of_head? hc), fun c hc => h c (List.mem_of_getLast? hc)⟩
  exact Text.trim_eq_iff.mpr ⟨htrimmed, [], [], by simp, by simp, by simp⟩

def cookieChars (id : String) : List Char := "auth=".toList ++ id.toList

theorem mem_cookieChars {id : String} (hid : IsPlainId id) {c : Char} (h : c ∈ cookieChars id) :
    isIdChar c := by
  rcases List.mem_append.mp h with hname | hvalue
  · exact List.all_eq_true.mp (by decide : "auth=".toList.all isIdChar) c hname
  · exact List.all_eq_true.mp hid c hvalue

theorem trim_cookieChars {id : String} (hid : IsPlainId id) :
    Text.trim isHeaderBlank (cookieChars id) = cookieChars id :=
  trim_of_no_blank fun _ hc => not_blank_of_isIdChar (mem_cookieChars hid hc)

theorem no_semicolon_cookieChars {id : String} (hid : IsPlainId id) :
    ∀ c ∈ cookieChars id, (c == ';') = false := fun _ hc =>
  beq_eq_false_iff_ne.mpr (isIdChar_iff.mp (mem_cookieChars hid hc)).2

theorem splitOnce?_cookieChars (id : String) :
    Text.splitOnce? '=' (cookieChars id) = some ("auth".toList, id.toList) := rfl

-- ---- What the service finds

theorem toList_cookie (id : String) : (authCookie ++ "=" ++ id).toList = cookieChars id := by
  simp only [String.toList_append]
  rfl

theorem isPlainHeader_cookie {id : String} (hid : IsPlainId id) :
    isPlainHeader (authCookie ++ "=" ++ id) := by
  rw [isPlainHeader, toList_cookie, List.all_eq_true]
  intro c hc
  obtain ⟨hlow, hhigh⟩ := printable_of_isIdChar (mem_cookieChars hid hc)
  simp [hlow, hhigh]

theorem cookiePairs_cookie {id : String} (hid : IsPlainId id) :
    cookiePairs (authCookie ++ "=" ++ id) = [(authCookie, id)] := by
  have hpair : (Text.splitOnce? '=' (Text.trim isHeaderBlank (cookieChars id))).map
      (fun pair => (String.ofList pair.1, String.ofList pair.2)) = some (authCookie, id) := by
    rw [trim_cookieChars hid, splitOnce?_cookieChars]
    exact congrArg (fun value => some (authCookie, value)) String.ofList_toList
  rw [cookiePairs, toList_cookie, List.splitOn,
    List.splitOnP_eq_singleton (no_semicolon_cookieChars hid)]
  exact List.filterMap_cons_some hpair

theorem sessionCookie?_none {headers : Headers} (h : headers.values "cookie" = []) :
    sessionCookie? headers = none := by
  simp only [sessionCookie?, h]
  rfl

theorem sessionCookie?_cookie {headers : Headers} (h : headers.values "cookie" = []) {id : String}
    (hid : IsPlainId id) :
    sessionCookie? (headers ++ [("cookie", authCookie ++ "=" ++ id)]) = some id := by
  have hvalues : Headers.values (headers ++ [("cookie", authCookie ++ "=" ++ id)]) "cookie" =
      [authCookie ++ "=" ++ id] := by
    have hcookie : sameIgnoringCase "cookie" "cookie" = true := by decide
    rw [Headers.values, List.filter_append, List.map_append, ← Headers.values, h]
    simp [hcookie]
  rw [sessionCookie?, hvalues, List.filter_cons_of_pos (isPlainHeader_cookie hid)]
  simp [cookiePairs_cookie hid]

theorem sessionCookie?_withCookie {request : Request} (h : Headers.values request.headers "cookie" = [])
    {jar : Network.Jar} (hjar : ∀ id, jar = some id → IsPlainId id) :
    sessionCookie? (Network.withCookie request jar).headers = jar := by
  cases jar with
  | none => exact (congrArg sessionCookie? (List.append_nil _)).trans (sessionCookie?_none h)
  | some id => exact sessionCookie?_cookie h (hjar id rfl)

-- ---- What the jar takes

theorem take_grantCookie (jar : Network.Jar) {id : String} (hid : IsPlainId id) :
    jar.take (grantCookie id) = some id := by
  have hchars : (grantCookie id).toList = cookieChars id ++ ';' :: " Path=/; HttpOnly".toList := by
    rw [grantCookie, String.toList_append, toList_cookie]
    rfl
  rw [Network.Jar.take, hchars, List.splitOn,
    List.splitOnP_append_cons_of_forall_mem (no_semicolon_cookieChars hid) ';' rfl]
  simp only [trim_cookieChars hid, splitOnce?_cookieChars]
  rw [if_pos (show String.ofList "auth".toList = authCookie from rfl), if_neg (by decide)]
  exact congrArg some String.ofList_toList

theorem take_resetCookie (jar : Network.Jar) : jar.take resetCookie = none := rfl

theorem after_setCookie (jar : Network.Jar) (value : String) :
    jar.after { status := 200, headers := [("set-cookie", value)] } = jar.take value := by
  simp [Network.Jar.after, Headers.values, sameIgnoringCase]

theorem jar_after_handle {ids : Nat → String} (hids : ∀ k, IsPlainId (ids k)) (service : Service)
    (request : Incoming) (jar : Network.Jar) :
    jar.after (service.handle ids request).1 = jar ∨
      jar.after (service.handle ids request).1 = none ∨
      ∃ id username, Service.Issues ids service request id username ∧
        jar.after (service.handle ids request).1 = some id := by
  generalize hresult : service.handle ids request = result
  have handled := Service.handle_handled ids service request
  rw [hresult] at handled
  cases handled with
  | refused hstatus hlogout hlogin hcall => exact .inl rfl
  | @opened credentials hlogin haccepts =>
    refine .inr (.inr ⟨ids service.issued, credentials.username,
      ⟨by rw [hresult], credentials, hlogin, haccepts, rfl⟩, ?_⟩)
    exact (after_setCookie jar _).trans (take_grantCookie jar (hids service.issued))
  | closed hlogout hlive =>
    exact .inr (.inl ((after_setCookie jar resetCookie).trans (take_resetCookie jar)))
  | answered hcall => exact .inl (by simp [Network.Jar.after, Headers.values, Service.answerIn,
      sameIgnoringCase])

end BlogDesk.Server
