import PageQuery.Agent.Request
import PageQuery.Net.Exchange
import PageQuery.Result.Table
import PageQuery.Fault
import PageQuery.Json.Value
/-!
The agent that runs queries, reached over the network (specification §6, Agent HTTP contract;
`HttpAgentClient`).

`answerOf` says what a response means: a result if its status is a success and its body decodes, and
otherwise a fault. `AgentFault.message` is never empty.
-/

namespace PageQuery

open Net Json Draft

/-! ## 1. The agent -/

def defaultAgentUrl : String := "http://127.0.0.1:7337"

def defaultTokenHeader : String := "X-XSQL-Token"

def queryPath : String := "/v1/query"

/-- Where the agent is, which header takes the token, and how its bodies are read. -/
structure Agent where
  /-- The address, without a slash at its end. -/
  address : String
  tokenHeader : String
  /-- What the parser says of a body that is no result. -/
  refusal : String → String

namespace Agent

/-- The agent at a URL. Slashes at its end do not count. -/
def ofBaseUrl (refusal : String → String) (url : String) : Agent :=
  ⟨String.ofList ((url.toList.reverse.dropWhile (· == '/')).reverse), defaultTokenHeader, refusal⟩

def endpoint (a : Agent) : String := a.address ++ queryPath

end Agent

/-! ## 2. What can go wrong -/

inductive AgentFault where
  /-- There was no response. -/
  | unanswered (cause : SendFault)
  /-- The response broke off. -/
  | unread
  /-- The agent refused the query with a text of its own. -/
  | refused (message : String)
  /-- The agent refused the query and did not say why. -/
  | status (code : Nat)
  /-- The body of a success is no result. -/
  | undecodable (cause : String)

namespace AgentFault

def message : AgentFault → String
  | unanswered cause => "agent request failed: " ++ cause.message
  | unread => "failed to read agent response: " ++ brokenBody
  | refused m => m
  | status code => "HTTP " ++ String.ofList (Number.naturalDigits code)
  | undecodable cause => "invalid agent response: " ++ cause

def toError (f : AgentFault) : ClientError := .network f.message

end AgentFault

/-! ## 3. Responses -/

/-- The text in the body of a refusal, at `error` and there at `message`. Either may be missing or
null, but a body of the wrong shape has no text at all. -/
def refusalText? (body : String) : Option String := do
  let d ← Draft.ofText? body.toList
  let (inner, fields) ← record? Levels.document ["error"] d
  let detail (d : Draft) : Option (Option String) := do
    let (_, fields) ← record? inner ["message"] d
    match fields with
    | [message] => orElse none (nullable? string?) message
    | _ => none
  match fields with
  | [error] => ((← orElse none (nullable? detail) error).join).filter (· ≠ "")
  | _ => none

/-- What a response with this status and body means. -/
def Agent.answerOf (a : Agent) (status : Nat) (body : String) : Except AgentFault QueryResult :=
  if 200 ≤ status ∧ status < 300 then
    match QueryResult.ofText? body with
    | some r => .ok r
    | none => .error (.undecodable (a.refusal body))
  else
    match refusalText? body with
    | some m => .error (.refused m)
    | none => .error (.status status)

/-! ## 4. The exchange -/

/-- The headers of a query. The token's header can stand in for the type of the content. -/
def queryHeaders (a : Agent) (token : String) : List (String × String) :=
  (a.tokenHeader, token) ::
    (if lowerName a.tokenHeader == "content-type" then []
     else [("content-type", "application/json")])

/-- Ask the agent to run a query. -/
def Agent.query (a : Agent) (token : String) (r : QueryRequest) (n : Network) :
    Except AgentFault QueryResult × Network :=
  match n.fetch "POST" a.endpoint (queryHeaders a token) r.toJson.render with
  | (.error e, n) => (.error (.unanswered e), n)
  | (.ok response, n) =>
    match response.text? with
    | none => (.error .unread, n)
    | some body => (a.answerOf response.status body, n)

end PageQuery
