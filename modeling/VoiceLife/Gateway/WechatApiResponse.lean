import VoiceLife.Gateway.WechatMessageIds
import VoiceLife.Lib.Utf8

/-! # `readWechatApiResponse`

A response within the size limit is parsed, and the message id is read from the source of its member rather
than from the parsed number. The error code and the other fields are taken from what `JSON.parse` returned.
-/

open DecimalText (roundHalfEven)
open JsonSource (Value IsValue IsChars Member)

namespace VoiceLife.Gateway

/-- `MAX_API_RESPONSE_BYTES`. -/
def maxApiResponseBytes : ℕ := 64 * 1024

/-- What is read of a response; the length is the number of its header, where there is one. -/
structure Response where
  contentLength : Option ℚ
  text : JsString

/-- What is returned. -/
structure WechatApiResponse where
  errcode : ℤ
  msgid : Option JsString
  accessToken : Option JsString
  expiresIn : Option ℤ
  deriving DecidableEq

/-! ## Numbers -/

/-- The double nearest to a number, ties to even; none where it is infinite. -/
def binary64 (value : ℚ) : Option ℚ :=
  let exponent := max (Int.log 2 |value| - 52) (-1074)
  let rounded : ℚ := roundHalfEven (value / 2 ^ exponent) * 2 ^ exponent
  if |rounded| < 2 ^ 1024 then some rounded else none

/-- A parsed number for which `Number.isSafeInteger` holds. -/
def safeInteger : Value → Option ℤ
  | .number value =>
    (binary64 value).bind fun rounded =>
      if rounded.den = 1 ∧ |rounded.num| ≤ 2 ^ 53 - 1 then some rounded.num else none
  | _ => none

/-! ## `readWechatApiResponse` -/

/-- The check of the header. -/
def checkContentLength (response : Response) : Except WechatError Unit :=
  match response.contentLength with
  | some contentLength =>
    if (maxApiResponseBytes : ℚ) < contentLength then
      .error (.protocolError "WeChat API response exceeded the size limit")
    else .ok ()
  | none => .ok ()

/-- A property of the parsed object: the last member of the name. -/
def propertyOf (parsed : List (JsString × Value)) (name : JsString) : Option Value :=
  parsed.reverse.lookup name

def readErrorCode (parsed : List (JsString × Value)) : Except WechatError ℤ :=
  match propertyOf parsed (js "errcode") with
  | none => .ok 0
  | some errcode =>
    match safeInteger errcode with
    | some errcode => .ok errcode
    | none => .error (.protocolError "WeChat API returned an invalid error code")

/-- `/^[0-9]{1,64}$/u`. -/
def isMessageId (text : JsString) : Bool :=
  text.all JsNumber.isDigit && 1 ≤ text.length && text.length ≤ 64

/-- The message id, from the source of its value. -/
def readMessageId : Option JsString → Except WechatError (Option JsString)
  | none => .ok none
  | some rawMessageId =>
    if rawMessageId.head? = some 34 then
      match JsonSource.parse rawMessageId with
      | none => .error .syntaxError
      | some (.string stringValue) =>
        if isMessageId stringValue then .ok (some stringValue)
        else .error (.protocolError "WeChat API returned an invalid message id")
      | some _ => .error (.protocolError "WeChat API returned an invalid message id")
    else if isMessageId rawMessageId then .ok (some rawMessageId)
    else .error (.protocolError "WeChat API returned an invalid message id")

def readAccessToken (parsed : List (JsString × Value)) : Option JsString :=
  match propertyOf parsed (js "access_token") with
  | some (.string accessToken) => some accessToken
  | _ => none

def readExpiresIn (parsed : List (JsString × Value)) : Option ℤ :=
  ((propertyOf parsed (js "expires_in")).bind safeInteger).filter (0 < ·)

/-- `readWechatApiResponse`. -/
def readWechatApiResponse (response : Response) : Except WechatError WechatApiResponse := do
  checkContentLength response
  if maxApiResponseBytes < (utf8 response.text).length then
    .error (.protocolError "WeChat API response exceeded the size limit")
  else
    match JsonSource.parse response.text with
    | none => .error (.protocolError "WeChat API returned invalid JSON")
    | some (.object parsed) => do
      let errcode ← readErrorCode parsed
      let rawMessageId ← topLevelJsonProperty response.text (js "msgid")
      let msgid ← readMessageId rawMessageId
      .ok { errcode, msgid, accessToken := readAccessToken parsed, expiresIn := readExpiresIn parsed }
    | some _ => .error (.protocolError "WeChat API returned an invalid object")

/-! ## The message id -/

/-- A number that is an id is taken as it stands. -/
theorem readMessageId_number {id : JsString} (h : isMessageId id = true) :
    readMessageId (some id) = .ok (some id) := by
  have hhead : id.head? ≠ some 34 := by
    intro hhead
    simp only [isMessageId, Bool.and_eq_true, List.all_eq_true] at h
    cases h.1.1 34 (List.mem_of_head? hhead)
  rw [readMessageId, if_neg hhead, if_pos h]

/-- A string that is an id is taken without its escapes. -/
theorem readMessageId_string {source id : JsString} (hvalue : IsValue source (.string id))
    (h : isMessageId id = true) : readMessageId (some source) = .ok (some id) := by
  cases hvalue with
  | string hchars =>
      rw [readMessageId, List.head?_cons, if_pos rfl, JsonSource.parse_string hchars]
      exact if_pos h

/-- Of members with distinct keys the one with the property is found. -/
theorem memberSource_of_mem {members : List Member} (hkeys : (members.map Member.key).Nodup) {member : Member}
    (hmember : member ∈ members) : memberSource member.key members = some member.element.source := by
  induction members with
  | nil => cases hmember
  | cons other members ih =>
      rw [memberSource_cons]
      rw [List.map_cons, List.nodup_cons] at hkeys
      rcases List.mem_cons.1 hmember with rfl | hmember
      · exact if_pos rfl
      · have hother : other.key ≠ member.key := fun hkey =>
          hkeys.1 (hkey ▸ List.mem_map_of_mem hmember)
        rw [if_neg hother]
        exact ih hkeys.2 hmember

theorem memberSource_eq_none {property : JsString} {members : List Member}
    (h : ∀ member ∈ members, member.key ≠ property) : memberSource property members = none := by
  rw [memberSource, List.find?_eq_none.2 fun member hmember => mt of_decide_eq_true (h member hmember)]
  rfl

/-- The scanner finds the source of the member whose decoded key is the property, and nothing where there is
none; it ends on every text, as its loops are recursions. A message id is read with all its digits, whatever
the header and the error code leave of the response. -/
theorem message_id_read {raw : JsString} {entries : List (JsString × Value)}
    (hparse : JsonSource.parse raw = some (.object entries)) (hkeys : (entries.map Prod.fst).Nodup) :
    (∃ members, IsObject raw members ∧ members.map Member.entry = entries) ∧
    ∀ members, IsObject raw members →
      (∀ member ∈ members, topLevelJsonProperty raw member.key = .ok (some member.element.source)) ∧
      (∀ property, (∀ member ∈ members, member.key ≠ property) →
        topLevelJsonProperty raw property = .ok none) ∧
      ∀ member ∈ members, member.key = js "msgid" →
        ∀ id, isMessageId id = true → member.element.source = id ∨ member.element.value = .string id →
          ∀ response : Response, response.text = raw → (utf8 raw).length ≤ maxApiResponseBytes →
            readWechatApiResponse response = (checkContentLength response).bind fun _ =>
              (readErrorCode entries).map fun errcode => {
                errcode
                msgid := some id
                accessToken := readAccessToken entries
                expiresIn := readExpiresIn entries
              } := by
  refine ⟨parse_object_iff.1 hparse, fun members hobject => ?_⟩
  have hentries : members.map Member.entry = entries := by
    have hagain := parse_object_iff.2 ⟨members, hobject, rfl⟩
    rw [hparse] at hagain
    cases hagain
    rfl
  have hdistinct : (members.map Member.key).Nodup := by
    rw [← hentries, List.map_map] at hkeys
    exact hkeys
  have hfound : ∀ member ∈ members, topLevelJsonProperty raw member.key = .ok (some member.element.source) :=
    fun member hmember => by rw [topLevelJsonProperty_eq hobject, memberSource_of_mem hdistinct hmember]
  refine ⟨hfound, fun property hnone => ?_, ?_⟩
  · rw [topLevelJsonProperty_eq hobject, memberSource_eq_none hnone]
  · rintro member hmember hkey id hid hsource response rfl hsize
    have hread : readMessageId (some member.element.source) = .ok (some id) := by
      rcases hsource with rfl | hvalue
      · exact readMessageId_number hid
      · exact readMessageId_string (hvalue ▸ hobject.values member hmember) hid
    have hsource := hfound member hmember
    rw [hkey] at hsource
    rw [readWechatApiResponse, if_neg (Nat.not_lt.2 hsize), hparse]
    dsimp only
    rw [hsource]
    show (checkContentLength response).bind (fun _ => (readErrorCode entries).bind fun errcode =>
      (readMessageId (some member.element.source)).bind fun msgid => _) = _
    rw [hread]
    rfl

/-- A message id with more digits than a number keeps, behind a nested member of the same name. -/
def nestedResponse : JsString :=
  js "\x7b\"data\":\x7b\"msgid\":1\x7d, \"msgid\" : 18446744073709551617\x7d"

/-- Its members. -/
def nestedMembers : List Member :=
  [{ lead := [], name := js "data", gap := [], key := js "data",
     element := { before := [], source := js "\x7b\"msgid\":1\x7d", after := [],
                  value := .object [(js "msgid", .number 1)] } },
   { lead := [32], name := js "msgid", gap := [32], key := js "msgid",
     element := { before := [32], source := js "18446744073709551617", after := [],
                  value := .number 18446744073709551617 } }]

theorem nestedResponse_isObject : IsObject nestedResponse nestedMembers := by
  have hblank : JsonSource.Blank [] := List.forall_mem_nil _
  have hspace : JsonSource.Blank [32] := List.forall_mem_singleton.2 rfl
  have hdata : IsChars (js "data") (js "data") :=
    .plain (by decide) (by decide) (by decide) (.plain (by decide) (by decide) (by decide)
      (.plain (by decide) (by decide) (by decide) (.plain (by decide) (by decide) (by decide) .nil)))
  have hmsgid : IsChars (js "msgid") (js "msgid") :=
    .plain (by decide) (by decide) (by decide) (.plain (by decide) (by decide) (by decide)
      (.plain (by decide) (by decide) (by decide) (.plain (by decide) (by decide) (by decide)
        (.plain (by decide) (by decide) (by decide) .nil))))
  have hone : JsonSource.numberValue (js "1") = some 1 := by decide +kernel
  have hid : JsonSource.numberValue (js "18446744073709551617") = some 18446744073709551617 := by decide +kernel
  have hinner : IsValue (js "\x7b\"msgid\":1\x7d") (.object [(js "msgid", .number 1)]) :=
    @IsValue.object [⟨[], js "msgid", [], js "msgid", ⟨[], js "1", [], .number 1⟩⟩] (List.cons_ne_nil _ _)
      (List.forall_mem_singleton.2 ⟨hblank, hblank, hmsgid, hblank, hblank⟩)
      (List.forall_mem_singleton.2 (.number hone))
  refine ⟨?_, ?_, [], _, [], hblank, hblank, ?_, .inr ⟨List.cons_ne_nil _ _, rfl⟩⟩
  · exact List.forall_mem_cons.2 ⟨⟨hblank, hblank, hdata, hblank, hblank⟩,
      List.forall_mem_singleton.2 ⟨hspace, hspace, hmsgid, hspace, hblank⟩⟩
  · exact List.forall_mem_cons.2 ⟨hinner, List.forall_mem_singleton.2 (.number hid)⟩
  · decide +kernel

theorem message_id_read_nested :
    readWechatApiResponse ⟨none, nestedResponse⟩ =
      .ok { errcode := 0, msgid := some (js "18446744073709551617"), accessToken := none, expiresIn := none } := by
  have hparse := parse_object_iff.2 ⟨nestedMembers, nestedResponse_isObject, rfl⟩
  have hkeys : ((nestedMembers.map Member.entry).map Prod.fst).Nodup := by decide +kernel
  have hsize : (utf8 nestedResponse).length ≤ maxApiResponseBytes := by decide +kernel
  have hid : isMessageId (js "18446744073709551617") = true := rfl
  obtain ⟨-, -, hread⟩ := (message_id_read hparse hkeys).2 nestedMembers nestedResponse_isObject
  have hmember := List.mem_cons_of_mem (nestedMembers.head (List.cons_ne_nil _ _)) (List.mem_singleton_self
    (nestedMembers.getLast (List.cons_ne_nil _ _)))
  rw [hread _ hmember rfl _ hid (.inl rfl) ⟨none, nestedResponse⟩ rfl hsize]
  rfl
end VoiceLife.Gateway
