import Terraforming.Service.Reply
import Terraforming.Text.Upper
import Terraforming.Wire.Parse

/-!
# Routes

Which path leads to which resource, and what can be done with it.  The body and the query of a
request are checked before anything is looked up; what is wrong with them is listed with the path to
where it is.
-/

namespace Terraforming

/-! ## Paths -/

/-- What can be done with one game. -/
inductive GameRoute where
  | summary
  | snapshot
  | operations
  | advance
  | play
  | actions
  | standardProjects
  | victoryPoints
  | tiles
  | search
deriving DecidableEq, Repr

namespace GameRoute

/-- The last part of the path; the summary has none. -/
def word : GameRoute → String
  | summary => ""
  | snapshot => "snapshot"
  | operations => "operations"
  | advance => "advance"
  | play => "play"
  | actions => "actions"
  | standardProjects => "standard-projects"
  | victoryPoints => "victory-points"
  | tiles => "tiles"
  | search => "search"

def all : List GameRoute :=
  [summary, snapshot, operations, advance, play, actions, standardProjects, victoryPoints, tiles,
   search]

instance : Vocabulary GameRoute := ⟨all, word⟩

end GameRoute

inductive Route where
  | front
  | health
  | games
  | game (id : String) (part : GameRoute)
deriving DecidableEq, Repr

namespace Route

/-- The route of a path that is split at its slashes. -/
def ofSegments? : List String → Option Route
  | ["", ""] => some front
  | ["", "health"] => some health
  | ["", "api", "v1", "games"] => some games
  | ["", "api", "v1", "games", id] => if id.isEmpty then none else some (game id .summary)
  | ["", "api", "v1", "games", id, part] =>
    if id.isEmpty || part.isEmpty then none
    else (Vocabulary.ofWord? part).map (game id)
  | _ => none

/-- A text without a line end at its end. -/
def withoutLineEnd (s : String) : String :=
  String.ofList (match s.toList.reverse with
    | '\n' :: cs => cs.reverse
    | _ => s.toList)

/-- The route of a path.  A line end behind a word of a path does not matter. -/
def ofPath? (path : String) : Option Route :=
  let segments := path.splitOn "/"
  ofSegments? segments <|>
    ofSegments? (segments.dropLast ++ [withoutLineEnd (segments.getLastD "")])

/-- The path without the slashes at its end. -/
def withoutSlashes (path : String) : String :=
  String.ofList (path.toList.reverse.dropWhile (· = '/')).reverse

/-- The route of a target, with the query that comes with it.  A path with slashes at its end is
sent back without them, if it has a route then, and read once more; so it goes at most so many
times. -/
def ofTarget? : (times : Nat) → Target → Option (Route × Target)
  | 0, _ => none
  | n + 1, t =>
    match ofPath? t.path with
    | some r => some (r, t)
    | none =>
      let path := withoutSlashes t.path
      if path ≠ t.path && (ofPath? path).isSome then ofTarget? n (.sentBack path t.query)
      else none

end Route

/-! ## Requests -/

/-- What a request comes through before it is answered, and how much that takes: it is not part of the
service, so this is a parameter, with the values that were found. -/
structure Channel where
  limits : Json.Limits := .sent
  /-- How often a request may be sent back. -/
  turns : Nat := 20

structure Request where
  /-- What is to be done; small letters are as good as capital ones. -/
  method : String
  address : String
  /-- A query that takes the place of the one in the address. -/
  query : Option (List (String × String)) := none
  /-- The text of the body; no text is no body. -/
  body : String := ""

namespace Request

def target (r : Request) : Except AddressError Target := do
  let t ← Target.ofAddress r.address
  match r.query with
  | some parameters => return { t with query := Target.queryOf parameters }
  | none => return t

/-- The mark that may stand in front of a body. -/
def byteOrderMark : Char := '\ufeff'

/-- The value of the body. -/
def bodyJson (r : Request) (limits : Json.Limits) : Except Json.Unread Json :=
  Json.parse .lenient (match r.body.toList with
    | c :: cs => if c = byteOrderMark then String.ofList cs else r.body
    | [] => r.body) limits

/-- What the body says, or the answer to a body that cannot be read. -/
def bodyOf {α : Type} (r : Request) (limits : Json.Limits) (read : Reader α) : Except Reply α :=
  if r.body.isEmpty then .error (.unreadable "body" [⟨[], .missing⟩])
  else match r.bodyJson limits with
    | .error .malformed => .error (.unreadable "body" [⟨[], .invalidJson⟩])
    | .error .excessive => .error .excessiveBody
    | .ok j =>
      match read j with
      | .ok a => .ok a
      | .bad ps => .error (.unreadableBody j ps)

end Request

namespace Target

/-- The last value that the query has for a name. -/
def parameter? (t : Target) (name : String) : Option Json :=
  Json.member? name (t.parameters.map fun e => (e.1, .string e.2))

def required {α : Type} (t : Target) (name : String) (read : Reader α) : Checked α :=
  match t.parameter? name with
  | some j => (read j).under name
  | none => Checked.under name (.fail .missing)

def optional {α : Type} (t : Target) (name : String) (read : Reader α) : Checked (Option α) :=
  match t.parameter? name with
  | some j => some <$> (read j).under name
  | none => .ok none

/-- What the query says, or the answer to a query that cannot be read. -/
def queried {α : Type} (c : Checked α) : Except Reply α :=
  match c with
  | .ok a => .ok a
  | .bad ps => .error (.unreadable "query" ps)

/-- The player whose actions are asked for. -/
def actor (t : Target) : Except Reply PlayerId := queried (t.required "player_id" Reader.int)

/-- The location that is asked for. -/
def location (t : Target) : Except Reply SentLocation :=
  queried <|
    SentLocation.mk <$> t.optional "x" Reader.int <*> t.optional "y" Reader.int
      <*> t.optional "special" Reader.term

end Target

/-! ## Answering -/

namespace Service

/-- Answer with what a request says, if it can be read. -/
def reading {α : Type} (s : Service) (e : Except Reply α) (f : α → Reply × Service) :
    Reply × Service :=
  match e with
  | .ok a => f a
  | .error reply => (reply, s)

/-- Answer a request that asks to change something. -/
def changing {α : Type} (json : α → Json) (r : Except Failure α × Service) : Reply × Service :=
  (.ofResult json r.1, r.2)

/-- Answer a request that only asks. -/
def asking {α : Type} (s : Service) (json : α → Json) (r : Except Failure α) : Reply × Service :=
  (.ofResult json r, s)

def moving (s : Service) (limits : Json.Limits) (id : String) (r : Request)
    (read : Reader MoveRequest) : Reply × Service :=
  s.reading (r.bodyOf limits read) fun m => changing MoveAnswer.json (s.move id m)

def answerGame (s : Service) (limits : Json.Limits) (id : String) (part : GameRoute) (t : Target)
    (r : Request) : Reply × Service :=
  match Text.upper r.method, part with
  | "GET", .summary => s.asking GameSummary.json (s.summary id)
  | "DELETE", .summary => changing (fun _ => endedJson id) (s.endGame id)
  | "GET", .snapshot => s.asking (snapshotJson id) (s.snapshot id)
  | "POST", .operations =>
    s.reading (r.bodyOf limits (readOperationRequest limits)) fun o =>
      changing GameSummary.json (s.applyOperation id o)
  | "POST", .advance => changing GameSummary.json (s.advance id)
  | "POST", .play => s.moving limits id r readPlayCard
  | "POST", .actions => s.moving limits id r readPerformAction
  | "GET", .actions =>
    s.reading t.actor fun p => s.asking (actionsJson p) (s.legalActions id p)
  | "POST", .standardProjects => s.moving limits id r readStandardProject
  | "GET", .victoryPoints => s.asking (scoresJson id) (s.victoryPoints id)
  | "GET", .tiles => s.reading t.location fun l => s.asking TileAnswer.json (s.tileAt id l)
  | "POST", .search =>
    s.reading (r.bodyOf limits readSearchRequest) fun q => s.asking playsJson (s.search id q)
  | _, _ => (.methodNotAllowed, s)

/-- Answer a request to a route. -/
def answerRoute (s : Service) (limits : Json.Limits) (route : Route) (t : Target) (r : Request) :
    Reply × Service :=
  match route, Text.upper r.method with
  | .game id part, _ => s.answerGame limits id part t r
  | .games, "GET" => (.answered 200 (idsJson s.ids), s)
  | .games, "POST" =>
    s.reading (r.bodyOf limits readNewGame) fun g => changing GameSummary.json (s.createGame g)
  | .health, "GET" => (.answered 200 healthJson, s)
  | .front, "GET" => (.answered 200 frontJson, s)
  | _, _ => (.methodNotAllowed, s)

/-- Answer a request that comes through a channel. -/
def answer (s : Service) (r : Request) (through : Channel := {}) : Reply × Service :=
  match r.target with
  | .error e => (.misaddressed e, s)
  | .ok t =>
    match Route.ofTarget? through.turns t with
    | some (route, t) => s.answerRoute through.limits route t r
    | none => (.notFound, s)

end Service

end Terraforming
