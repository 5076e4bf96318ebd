import RudpAgentStack.Common.Host
import RudpAgentStack.Foundation.JsonText
import RudpAgentStack.Foundation.Separators

/-!
# HTTP messages

`HTTPBuilder` of `common/http_packet.py`: requests for a name and responses
with a JSON body, as texts.
-/

namespace RudpAgentStack

open Foundation

namespace HttpBuilder

/-- The end of a line. -/
def crlf : Text := [0x0D, 0x0A]

/-- The space of a request line. -/
def space : CodePoint := 0x20

/-- The sign before the name. -/
def equalSign : CodePoint := 0x3D

/-- What the target of a request starts with. -/
def queryPrefix : Text := "/dns-query?name="

/-- `build_doh_request` -/
def buildDohRequest (domainName host : Text) (port : Int) : Text :=
  Text.ofString "GET /dns-query?name=" ++ domainName ++ " HTTP/1.1" ++ crlf ++
    ("Host: " ++ host ++ ":" ++ Text.ofInt port ++ crlf ++
      "Accept: application/json" ++ crlf ++ crlf)

/-- `parse_request` -/
def parseRequest (rawData : Text) : Option Text :=
  match cut crlf rawData with
  | [] => none
  | requestLine :: _ =>
      match requestLine.splitOn space with
      | method :: url :: _ =>
          if method = Text.ofString "GET" ∧ queryPrefix <+: url then
            some ((((url.splitOn equalSign).getD 1 []).splitOn space).headD [])
          else none
      | _ => none

/-- The text for a status code. -/
def statusText (statusCode : Int) : Text :=
  if statusCode = 404 then "Not Found"
  else if statusCode ≠ 200 then "Error"
  else "OK"

/-- The lines of a response before its body. -/
def responseHead (statusCode : Int) (bodyLength : Nat) : Text :=
  Text.ofString "HTTP/1.1 " ++ Text.ofInt statusCode ++ " " ++
    statusText statusCode ++ crlf ++ "Content-Type: application/json" ++
      crlf ++ "Content-Length: " ++ Text.ofInt bodyLength

/-- `build_json_response` -/
def buildJsonResponse {World : Type}
    (host : Host World) (statusCode : Int) (data : Json) :
    Except PyError Text := do
  let bodyStr ← host.jsonDumps {} data
  return responseHead statusCode bodyStr.length ++ crlf ++ crlf ++ bodyStr

/-- `parse_response` -/
def parseResponse {World : Type}
    (host : Host World) (rawData : Text) : Except PyError (Option Json) :=
  match partition? (crlf ++ crlf) rawData with
  | none => return none
  | some (_, body) =>
      match host.jsonLoads body with
      | .ok data => return some data
      | .error error =>
          if error.kind = .jsonDecodeError then return none else .error error

/-! ## What the server reads -/

/-- The part of a name that a request for it asks for. -/
def askedName (domainName : Text) : Text :=
  ((((partition? crlf domainName).map Prod.fst).getD domainName).takeWhile
    (· ≠ space)).takeWhile (· ≠ equalSign)

/-- The first line of a request. -/
theorem head?_cut_buildDohRequest
    (domainName host : Text) (port : Int) :
    ∃ tail, (tail = [] ∨ ∃ rest, tail = space :: rest) ∧
      (cut crlf (buildDohRequest domainName host port)).head? =
        some (Text.ofString "GET " ++ (queryPrefix ++
          ((partition? crlf domainName).map Prod.fst).getD domainName ++
            tail)) := by
  have started : Text.ofString "GET /dns-query?name=" =
      Text.ofString "GET " ++ queryPrefix := by decide
  have passed : ∀ text, partition? crlf
      (Text.ofString "GET /dns-query?name=" ++ text) =
        (partition? crlf text).map fun (first, second) =>
          (Text.ofString "GET /dns-query?name=" ++ first, second) :=
    partition?_append_of_not_mem (by decide)
  simp only [head?_cut, buildDohRequest, List.append_assoc, passed]
  cases found : partition? crlf domainName with
  | some parts =>
      obtain ⟨before, after⟩ := parts
      refine ⟨[], .inl rfl, ?_⟩
      rw [partition?_append_of_some found, started]
      simp only [Option.map_some, Option.getD_some, List.append_assoc,
        List.append_nil]
  | none =>
      refine ⟨Text.ofString " HTTP/1.1", .inr ⟨_, rfl⟩, ?_⟩
      have line : ∀ text, partition? crlf (domainName ++
          (Text.ofString " HTTP/1.1" ++ (crlf ++ text))) =
            some (domainName ++ Text.ofString " HTTP/1.1", text) := by
        intro text
        have apart : partition? crlf (domainName ++
            (Text.ofString " HTTP/1.1" ++ (crlf ++ text))) = _ :=
          partition?_append_of_none found (show space ∉ crlf by decide) _
        have ended : partition? crlf
            (Text.ofString " HTTP/1.1" ++ (crlf ++ text)) = _ :=
          partition?_append_of_not_mem
            (show (0x0D : CodePoint) ∉ Text.ofString " HTTP/1.1" by decide) _
        refine apart.trans ?_
        change ((partition? crlf (Text.ofString " HTTP/1.1" ++
          (crlf ++ text))).map _) = _
        rw [ended]
        change (((partition? crlf (crlf ++ text)).map _).map _) = _
        rw [partition?_self (by decide)]
        rfl
      rw [line, started]
      simp only [Option.map_some, Option.map_none, Option.getD_some,
        Option.getD_none, List.append_assoc]

theorem takeWhile_append_tail
    (text : Text) {tail : Text} (ends : tail = [] ∨ ∃ rest, tail = space :: rest) :
    (text ++ tail).takeWhile (· ≠ space) = text.takeWhile (· ≠ space) := by
  rcases ends with rfl | ⟨rest, rfl⟩
  · rw [List.append_nil]
  · induction text with
    | nil => simp
    | cons point text inductionHypothesis =>
        rw [List.cons_append, List.takeWhile_cons, List.takeWhile_cons,
          inductionHypothesis]

/-- A request asks for a part of its name. -/
theorem parseRequest_buildDohRequest
    (domainName host : Text) (port : Int) :
    parseRequest (buildDohRequest domainName host port) =
      some (askedName domainName) := by
  obtain ⟨tail, ends, firstLine⟩ :=
    head?_cut_buildDohRequest domainName host port
  obtain ⟨others, lines⟩ := List.head?_eq_some_iff.mp firstLine
  unfold parseRequest askedName
  rw [lines]
  generalize ((partition? crlf domainName).map Prod.fst).getD domainName =
    asked
  have method : (Text.ofString "GET " ++ (queryPrefix ++ asked ++
      tail)).splitOn space = Text.ofString "GET" ::
        (queryPrefix ++ asked ++ tail).splitOn space :=
    List.splitOn_append_cons_self_of_not_mem
      (show space ∉ Text.ofString "GET" by decide) _
  obtain ⟨further, url⟩ :=
    List.head?_eq_some_iff.mp (head?_splitOn space (queryPrefix ++ asked ++ tail))
  have target : (queryPrefix ++ asked ++ tail).takeWhile (· ≠ space) =
      queryPrefix ++ asked.takeWhile (· ≠ space) := by
    rw [takeWhile_append_tail _ ends, List.takeWhile_append_of_pos]
    exact List.all_eq_true.mp (by decide)
  have named : (queryPrefix ++ asked.takeWhile (· ≠ space)).splitOn
      equalSign = Text.ofString "/dns-query?name" ::
        (asked.takeWhile (· ≠ space)).splitOn equalSign :=
    List.splitOn_append_cons_self_of_not_mem
      (show equalSign ∉ Text.ofString "/dns-query?name" by decide) _
  dsimp only
  rw [method, url, target]
  dsimp only
  rw [if_pos ⟨rfl, List.prefix_append _ _⟩, named]
  obtain ⟨more, nameParts⟩ := List.head?_eq_some_iff.mp
    (head?_splitOn equalSign (asked.takeWhile (· ≠ space)))
  have noSpace : space ∉ (asked.takeWhile (· ≠ space)).takeWhile
      (· ≠ equalSign) := by
    intro member
    simpa using List.mem_takeWhile_imp ((List.takeWhile_prefix _).subset member)
  rw [nameParts]
  have second (first : Text) :
      (first :: ((asked.takeWhile (· ≠ space)).takeWhile (· ≠ equalSign) ::
        more)).getD 1 [] =
        (asked.takeWhile (· ≠ space)).takeWhile (· ≠ equalSign) := rfl
  rw [second, List.splitOn_eq_singleton noSpace, List.headD_cons]

/-- A name without ends of lines, spaces and equal signs is asked for as a
whole. -/
theorem askedName_eq_self_iff {domainName : Text} :
    askedName domainName = domainName ↔
      partition? crlf domainName = none ∧ space ∉ domainName ∧
        equalSign ∉ domainName := by
  unfold askedName
  cases found : partition? crlf domainName with
  | some parts =>
      obtain ⟨before, after⟩ := parts
      have shorter : before.length < domainName.length := by
        rw [← append_of_partition? found]
        simp [crlf]
      refine ⟨fun same => ?_, fun plain => nomatch plain.1⟩
      have kept := ((List.takeWhile_prefix (p := (· ≠ equalSign))).trans
        (List.takeWhile_prefix (l := before) (p := (· ≠ space)))).length_le
      rw [Option.map_some, Option.getD_some] at same
      rw [same] at kept
      omega
  | none =>
      rw [Option.map_none, Option.getD_none]
      constructor
      · intro same
        have noSpace : domainName.takeWhile (· ≠ space) = domainName := by
          refine (List.takeWhile_prefix _).eq_of_length_le ?_
          have kept := (List.takeWhile_prefix (p := (· ≠ equalSign))
            (l := domainName.takeWhile (· ≠ space))).length_le
          rwa [same] at kept
        rw [noSpace] at same
        refine ⟨rfl, fun member => ?_, fun member => ?_⟩
        · simpa using List.takeWhile_eq_self_iff.mp noSpace _ member
        · simpa using List.takeWhile_eq_self_iff.mp same _ member
      · rintro ⟨-, noSpace, noSign⟩
        have keptSpace : domainName.takeWhile (· ≠ space) = domainName :=
          List.takeWhile_eq_self_iff.mpr fun point member =>
            decide_eq_true (ne_of_mem_of_not_mem member noSpace)
        have keptSign : domainName.takeWhile (· ≠ equalSign) = domainName :=
          List.takeWhile_eq_self_iff.mpr fun point member =>
            decide_eq_true (ne_of_mem_of_not_mem member noSign)
        rw [keptSpace, keptSign]

/-! ## What the client reads -/

/-- A line of a response is passed over, with its end, if it is not the last
one. -/
theorem partition?_line
    {line rest : Text} (noReturn : (0x0D : CodePoint) ∉ line)
    (goesOn : rest.head? ≠ some 0x0D) :
    partition? (crlf ++ crlf) (line ++ (crlf ++ rest)) =
      (partition? (crlf ++ crlf) rest).map
        fun (first, second) => (line ++ (crlf ++ first), second) := by
  have noEnd : ¬ (crlf ++ crlf) <+: 0x0D :: ([0x0A] ++ rest) := by
    intro isPrefix
    obtain ⟨after, same⟩ : crlf <+: rest :=
      (List.prefix_append_right_inj crlf).mp isPrefix
    exact goesOn (same ▸ rfl)
  have passed : partition? (crlf ++ crlf)
      (line ++ (crlf ++ rest)) = _ :=
    partition?_append_of_not_mem noReturn _
  have inner : partition? (crlf ++ crlf) ([0x0A] ++ rest) = _ :=
    partition?_append_of_not_mem
      (show (0x0D : CodePoint) ∉ [0x0A] by decide) _
  have ended : partition? (crlf ++ crlf)
      (0x0D :: ([0x0A] ++ rest)) = _ :=
    partition?_cons_of_mismatch noEnd
  refine passed.trans ?_
  refine (congrArg _ (ended.trans (congrArg _ inner))).trans ?_
  rw [Option.map_map, Option.map_map]
  rfl

/-- There is no end of a line in the lines of a response. -/
theorem noReturn_ofInt (number : Nat) :
    (0x0D : CodePoint) ∉ Text.ofInt number := by
  intro member
  have digit := Text.digit_of_mem_ofInt member
  omega

theorem noReturn_statusText (statusCode : Int) :
    (0x0D : CodePoint) ∉ statusText statusCode := by
  unfold statusText
  split_ifs <;> decide

/-- The body of a response follows its head. -/
theorem partition?_response
    (statusCode : Nat) (body : Text) :
    partition? (crlf ++ crlf)
      (responseHead statusCode body.length ++ crlf ++ crlf ++ body) =
      some (responseHead statusCode body.length, body) := by
  have statusLine : (0x0D : CodePoint) ∉ Text.ofString "HTTP/1.1 " ++
      Text.ofInt statusCode ++ Text.ofString " " ++ statusText statusCode := by
    simp only [List.mem_append, not_or]
    exact ⟨⟨⟨by decide, noReturn_ofInt statusCode⟩, by decide⟩,
      noReturn_statusText statusCode⟩
  have lengthLine : (0x0D : CodePoint) ∉ Text.ofString "Content-Length: " ++
      Text.ofInt body.length := by
    rw [List.mem_append, not_or]
    exact ⟨by decide, noReturn_ofInt body.length⟩
  have lastLine : partition? (crlf ++ crlf) (Text.ofString
      "Content-Length: " ++ Text.ofInt body.length ++
        ((crlf ++ crlf) ++ body)) = _ :=
    partition?_append_of_not_mem lengthLine _
  have shape : responseHead statusCode body.length ++ crlf ++ crlf ++ body =
      Text.ofString "HTTP/1.1 " ++ Text.ofInt statusCode ++
        Text.ofString " " ++ statusText statusCode ++ (crlf ++
          (Text.ofString "Content-Type: application/json" ++ (crlf ++
            (Text.ofString "Content-Length: " ++ Text.ofInt body.length ++
              ((crlf ++ crlf) ++ body))))) := by
    simp only [responseHead, List.append_assoc]
  have startsC (text rest : Text) (starts : text.head? = some 0x43) :
      (text ++ rest).head? ≠ some 0x0D := by
    rw [List.head?_append, starts, Option.some_or]
    decide
  rw [shape, partition?_line statusLine (startsC _ _ (by decide)),
    partition?_line (by decide)]
  · refine (congrArg _ (congrArg _ lastLine)).trans ?_
    refine (congrArg _ (congrArg _ (congrArg _
      (partition?_self (by decide) body)))).trans ?_
    simp only [Option.map_some, responseHead, List.append_assoc,
      List.append_nil]
  · rw [List.append_assoc]
    exact startsC _ _ (by decide)

end HttpBuilder

end RudpAgentStack
