import MoveSkeleton.Node.Answer

/-! A node: what it answers to each address, request by request. -/
namespace MoveSkeleton

/-- The answers to come at each address. The last of them is given again and again; an address
without answers is not found. -/
abbrev Node := Entries Text (List Answer)

namespace Node

def ask (n : Node) (url : Text) : Answer × Node :=
  match Entries.get? n url with
  | some (a :: b :: rest) => (a, Entries.put n url (b :: rest))
  | some [a] => (a, n)
  | some [] | none => (.notFound, n)

def dependencies (n : Node) : List Dependency :=
  n.flatMap fun e => e.2.flatMap Answer.dependencies

end Node

/-- How a node is reached: its address without slashes at the end, and the token that goes with
every request. -/
structure Client where
  base : Text
  token : Option Text
  deriving DecidableEq

namespace Client

def bearer (token : Text) : Text := "Bearer " ++ token

/-- A token without a character is none. A header holds ASCII only. -/
def make (address : Text) (token : Option Text) : Except Text.EncodingFault Client :=
  let kept := token.filter (!·.isEmpty)
  match kept.bind fun t => Text.EncodingFault.find .notAscii (bearer t) with
  | some fault => .error fault
  | none =>
    .ok { base := ⟨(address.points.reverse.dropWhile (· == .char '/')).reverse⟩
          token := kept }

/-- What goes into the authorization header: the credentials in the address, or else the token. -/
def authorization (c : Client) (url : Text) : Option Text :=
  ((Address.credentials? url).map Text.ofString).or (c.token.map bearer)

def resourcesUrl (c : Client) (account : Text) : Text :=
  c.base ++ "/v1/accounts/" ++ account ++ "/resources"

def interfaceUrl (c : Client) (account module : Text) : Text :=
  c.base ++ "/v1/accounts/" ++ account ++ "/module/" ++ module

end Client

end MoveSkeleton
