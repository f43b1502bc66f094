import BlogDesk.Server.Router
import BlogDesk.Store.Basic

/-!
# Visitors of one service

Each visitor has a store and a cookie jar. A request carries the session cookie
that the jar held when the request was made; the service executes it once, at any
later time, and its response is delivered at any time after that. The jar changes
when a response is delivered. `perform` is what happens when one visitor's action is
carried through while nobody else does anything.
-/

namespace BlogDesk.Network

-- ---- Cookies

abbrev Jar := Option String

/-- What a `set-cookie` header makes of the jar: an `auth` cookie replaces the one
that was there, one that is over already removes it. -/
def Jar.take (jar : Jar) (header : String) : Jar :=
  match header.toList.splitOn ';' with
  | [] => jar
  | pair :: attributes =>
    match Text.splitOnce? '=' (Text.trim Server.isHeaderBlank pair) with
    | some (name, value) =>
      if String.ofList name = Server.authCookie then
        if attributes.any (Text.trim Server.isHeaderBlank · == "Max-Age=0".toList) then none
        else some (String.ofList value)
      else jar
    | none => jar

def Jar.after (jar : Jar) (response : Response) : Jar :=
  (response.headers.values "set-cookie").foldl Jar.take jar

-- ---- Requests under way

structure Parcel where
  number : Nat
  incoming : Server.Incoming
  response : Option Response := none

def withCookie (request : Request) (jar : Jar) : Server.Incoming where
  path := request.path
  headers := request.headers ++ (jar.map fun id => ("cookie", Server.authCookie ++ "=" ++ id)).toList
  body := request.body.getD ""

/-- Whether an address names a scheme, as it must to be reached over a network. -/
def isAbsolute (address : String) : Bool :=
  match Text.splitOnce? ':' address.toList with
  | some (c :: scheme, _) =>
    c.isAlpha && scheme.all fun c => c.isAlphanum || c == '+' || c == '-' || c == '.'
  | _ => false

def notAbsolute (address : String) : CallFailure :=
  .transport (address ++ " is not an absolute URL; set API_URL to the server's full base URL")

structure Visitor where
  store : Store
  jar : Jar := none
  parcels : List Parcel := []
  /-- Whether requests go over a network, and not to the service as they are. -/
  remote : Bool := false
  /-- What came back for each request, latest first. -/
  received : List (Nat × Store.Reception) := []

namespace Visitor

def receive (visitor : Visitor) (number : Nat) (reception : Store.Reception) : Visitor :=
  { visitor with
    store := visitor.store.step (.receive number reception)
    received := (number, reception) :: visitor.received }

def fresh? (store earlier : Store) : Option (Nat × Request) :=
  if earlier.requested < store.requested then
    match store.log with
    | .request _ number request _ :: _ => some (number, request)
    | _ => none
  else none

/-- Sends a request off, or refuses it on the spot. -/
def post (visitor : Visitor) (number : Nat) (request : Request) : Visitor :=
  if visitor.remote && !isAbsolute request.path then
    visitor.receive number (.error (notAbsolute request.path))
  else { visitor with parcels := visitor.parcels ++ [⟨number, withCookie request visitor.jar, none⟩] }

def step (visitor : Visitor) (event : Store.Event) : Visitor :=
  let store := visitor.store.step event
  let next := { visitor with store }
  match fresh? store visitor.store with
  | some (number, request) => next.post number request
  | none => next

def deliver (visitor : Visitor) (number : Nat) : Visitor :=
  match visitor.parcels.find? (·.number == number) with
  | some { response := some response, .. } =>
    { visitor with
      jar := visitor.jar.after response
      parcels := visitor.parcels.filter (·.number != number) }.receive number (.ok response)
  | _ => visitor

end Visitor

end Network

-- ---- The network

structure Network where
  service : Server.Service := {}
  visitors : List Network.Visitor

namespace Network

def ofSettings (settings : List Settings) : Network where
  visitors := settings.map fun settings => { store := .ofSettings settings }

inductive Event where
  | act (visitor : Nat) (event : Store.Event)
  /-- The service executes a request. -/
  | serve (visitor number : Nat)
  | deliver (visitor number : Nat)

def serveParcels (ids : Nat → String) (number : Nat) (service : Server.Service) :
    List Parcel → Server.Service × List Parcel
  | [] => (service, [])
  | parcel :: rest =>
    if parcel.number = number ∧ parcel.response.isNone then
      let (response, service) := service.handle ids parcel.incoming
      (service, { parcel with response := some response } :: rest)
    else
      let (service, rest) := serveParcels ids number service rest
      (service, parcel :: rest)

def modifyVisitor (network : Network) (index : Nat) (f : Visitor → Visitor) : Network :=
  { network with visitors := network.visitors.modify index f }

def step (ids : Nat → String) (network : Network) : Event → Network
  | .act index event => network.modifyVisitor index (·.step event)
  | .serve index number =>
    match network.visitors[index]? with
    | none => network
    | some visitor =>
      let (service, parcels) := serveParcels ids number network.service visitor.parcels
      { service, visitors := network.visitors.set index { visitor with parcels } }
  | .deliver index number => network.modifyVisitor index (·.deliver number)

def run (ids : Nat → String) (network : Network) (events : List Event) : Network :=
  events.foldl (step ids) network

-- ---- One action after the other

def pending? (store : Store) : Store.Slice → Option Nat
  | .user => store.users.running.map (·.exchange.number)
  | .blogs => store.blogs.running.map (·.exchange.number)

/-- The request that the slice waits for is executed, its response comes and is held back
no longer, and the action goes on. -/
def exchange (ids : Nat → String) (index : Nat) (slice : Store.Slice) (network : Network) : Network :=
  match network.visitors[index]? with
  | none => network
  | some visitor =>
    match pending? visitor.store slice with
    | none => network
    | some number => network.run ids [.serve index number, .deliver index number,
        .act index (.pass visitor.store.delay), .act index (.resume slice)]

/-- Carries an action through. It has at most three exchanges. -/
def perform (ids : Nat → String) (network : Network) (index : Nat)
    (action : Store.Action) : Network :=
  let exchange := exchange ids index action.slice
  exchange (exchange (exchange
    (network.run ids [.act index (.start action), .act index (.resume action.slice)])))

end Network

end BlogDesk
