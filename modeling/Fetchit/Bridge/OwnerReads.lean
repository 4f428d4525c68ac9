import Fetchit.Bridge.FollowRoutes

/-! The reads that are open to the owner of a handle alone: both sides of the follow graph, the
queue of requests that wait for an answer, and the messages. -/
namespace Fetchit.Bridge
open Lib Lib.Outcome

inductive ReadEndpoint where
  | followingList
  | followersList
  | followRequests
  | getMessages (sinceMs : Int)
  deriving DecidableEq

def ReadEndpoint.resource : ReadEndpoint → String
  | .followingList => "following"
  | .followersList => "followers/list"
  | .followRequests => "follow-requests"
  | .getMessages _ => "messages"

/-- The messages have a copy of the gate of their own. -/
def ReadEndpoint.gate : ReadEndpoint → Gate
  | .getMessages _ => authOwner
  | _ => authActor

structure ReadRequest where
  handle : String
  headers : HeaderMap

structure Reading where
  authMs : UInt64
  lookupFault : Option String
  readFault : Bool

inductive Listing where
  | following (items : List FollowingRecord)
  | followers (items : List String)
  | requests (items : List FollowRequestRecord)
  | messages (items : List InboxMessage)
  deriving DecidableEq

def followingList (following : Following) (actorId : String) : List FollowingRecord :=
  (following.table.rows.filter fun row => row.actorId = actorId).insertionSort
    fun first second => second.createdMs ≤ first.createdMs

def followersList (followers : Table FollowerRecord.key) (actorId : String) : List String :=
  ((followers.rows.filter fun row => row.actorId = actorId).insertionSort
    fun first second => second.sinceMs ≤ first.sinceMs).map FollowerRecord.followerActorUrl

def listing (tables : Tables) (actorId : String) : ReadEndpoint → Listing
  | .followingList => .following (followingList tables.following actorId)
  | .followersList => .followers (followersList tables.followers actorId)
  | .followRequests => .requests (newestRequests tables.followRequests actorId)
  | .getMessages sinceMs => .messages (inboxList tables.inboxMessages actorId sinceMs 200)

def authRead (bridge : BridgeConfig) (store : Store) (endpoint : ReadEndpoint)
    (request : ReadRequest) (reading : Reading) : Except Response ActorRecord :=
  endpoint.gate.authenticate bridge store request.handle
    ⟨request.headers, "GET", s!"/actors/{request.handle}/{endpoint.resource}", []⟩
    reading.authMs reading.lookupFault

def read (bridge : BridgeConfig) (store : Store) (tables : Tables) (endpoint : ReadEndpoint)
    (request : ReadRequest) (reading : Reading) : Except Response Listing := do
  let record ← authRead bridge store endpoint request reading
  require (!reading.readFault) ⟨500, "store error"⟩
  .ok (listing tables record.agentId endpoint)

end Fetchit.Bridge
