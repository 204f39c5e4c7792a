import MoveSkeleton.Disk.Basic
import MoveSkeleton.Json.Access
import MoveSkeleton.Json.Bytes
import MoveSkeleton.Node.Address
import MoveSkeleton.Terminal.Markup

/-! Why a run fails, and how a failure is reported. -/
namespace MoveSkeleton

inductive TransportLapse where
  | connect
  | connectTimeout
  | readTimeout
  | read
  | remoteProtocol
  | tooManyRedirects
  | decoding
  | unsupportedProtocol
  | proxy
  deriving DecidableEq

def TransportLapse.label : TransportLapse → String
  | .connect => "ConnectError"
  | .connectTimeout => "ConnectTimeout"
  | .readTimeout => "ReadTimeout"
  | .read => "ReadError"
  | .remoteProtocol => "RemoteProtocolError"
  | .tooManyRedirects => "TooManyRedirects"
  | .decoding => "DecodingError"
  | .unsupportedProtocol => "UnsupportedProtocol"
  | .proxy => "ProxyError"

namespace TransportLapse

def all : List TransportLapse :=
  [.connect, .connectTimeout, .readTimeout, .read, .remoteProtocol, .tooManyRedirects, .decoding,
    .unsupportedProtocol, .proxy]

def ofLabel? (label : String) : Option TransportLapse :=
  all.find? (·.label = label)

end TransportLapse

inductive Malformation where
  | notJson (fault : Json.BytesFault)
  | notResources (kind : Json.Kind)
  | noInterface
  | shape (fault : Json.Fault)
  deriving DecidableEq

def Json.ReadFault.message : Json.ReadFault → String
  | .tooLong digits => Numeral.tooLongMessage digits
  | .tooDeep container =>
    s!"maximum recursion depth exceeded while decoding a JSON {container.name} " ++
      "from a unicode string"
  | .lapse what line column offset =>
    s!"{what.message}: line {line} column {column} (char {offset})"

def Json.BytesFault.message : Json.BytesFault → String
  | .undecodable fault => fault.message
  | .unreadable fault => fault.message

def Malformation.message : Malformation → String
  | .notJson fault => s!"invalid JSON: {fault.message}"
  | .notResources kind => s!"expected a list of resources, got {kind.name}"
  | .noInterface => "response has no abi object"
  | .shape fault => s!"{fault.label}: {fault.message}"

inductive VoidOperand where
  | address
  | envFile
  | package
  deriving DecidableEq

namespace VoidOperand

def label : VoidOperand → String
  | .address | .envFile => "AttributeError"
  | .package => "TypeError"

def message : VoidOperand → String
  | .address => "'list' object has no attribute 'rstrip'"
  | .envFile => "'list' object has no attribute 'exists'"
  | .package => "unsupported operand type(s) for /: 'PosixPath' and 'list'"

end VoidOperand

inductive Failure where
  /-- The node answered with a status outside 200 to 299. -/
  | status (code : Nat) (url : Text)
  | malformed (url : Text) (why : Malformation)
  | noRegistry (account : Text)
  | noPackage (account name : Text)
  | transport (lapse : TransportLapse) (message : String)
  | address (fault : Address.Fault)
  /-- A whole number was wanted where an infinite one stands. -/
  | infiniteNumber
  | tooDeep (container : Json.Container)
  | disk (fault : DiskFault)
  | undecodable (fault : Text.DecodingFault)
  | unencodable (fault : Text.EncodingFault)
  | unprintable (fault : Terminal.Fault)
  | void (operand : VoidOperand)
  deriving DecidableEq

structure Report where
  label : String
  message : Text
  data : Option (Entries Text Json)

namespace Report

def ofMessage (message : Text) (data : Entries Text Json) : Report :=
  ⟨"AptosMockError", message, some data⟩

def ofStatus (code : Int) (url : Text) : Report :=
  { label := "RpcStatusError"
    message := s!"HTTP error! status: {code} (" ++ url ++ ")"
    data := some [("statusCode", .int code), ("url", .text url)] }

def ofMalformed (url reason : Text) : Report :=
  { label := "MalformedResponseError"
    message := "Malformed response from " ++ url ++ ": " ++ reason
    data := some [("url", .text url), ("reason", .text reason)] }

def ofNoRegistry (account : Text) : Report :=
  { label := "PackageRegistryNotFoundError"
    message := "PackageRegistry not found for account " ++ account
    data := some [("account", .text account)] }

def ofNoPackage (account name : Text) : Report :=
  { label := "PackageNotFoundError"
    message := "Package " ++ name ++ " not found in account " ++ account
    data := some [("account", .text account), ("packageName", .text name)] }

def ofFault (fault : Json.Fault) : Report :=
  ⟨fault.label, fault.message, none⟩

end Report

namespace Failure

def report : Failure → Report
  | .status code url => .ofStatus code url
  | .malformed url why => .ofMalformed url why.message
  | .noRegistry account => .ofNoRegistry account
  | .noPackage account name => .ofNoPackage account name
  | .transport lapse message => ⟨lapse.label, message, none⟩
  | .address fault => ⟨fault.label, fault.message, none⟩
  | .infiniteNumber => .ofFault .infinite
  | .tooDeep container => ⟨"RecursionError", (Json.ReadFault.tooDeep container).message, none⟩
  | .disk fault => ⟨fault.label, fault.message, none⟩
  | .undecodable fault => ⟨"UnicodeDecodeError", fault.message, none⟩
  | .unencodable fault => ⟨Text.EncodingFault.label, fault.message, none⟩
  | .unprintable fault => ⟨fault.label, fault.message, none⟩
  | .void operand => ⟨operand.label, operand.message, none⟩

def message (f : Failure) : Text :=
  f.report.message

/-- A failure to learn something from a node. Resolution passes over it. -/
def isOfNode : Failure → Bool
  | .status _ _ | .malformed _ _ | .noRegistry _ | .noPackage _ _ | .transport _ _ => true
  | .address _ | .infiniteNumber | .tooDeep _ | .disk _ | .undecodable _ | .unencodable _
  | .unprintable _ | .void _ => false

/-- A failure that a run expects: one of a node or of the disk itself. -/
def isExpected : Failure → Bool
  | .disk .zeroCharacter | .disk (.unencodable _) => false
  | .disk _ => true
  | f => f.isOfNode

/-- A body that is no JSON value makes an answer malformed, unless its values lie too deep. -/
def ofBody (url : Text) : Json.BytesFault → Failure
  | .unreadable (.tooDeep container) => .tooDeep container
  | fault => .malformed url (.notJson fault)

def ofFault (url : Text) : Json.Fault → Failure
  | .infinite => .infiniteNumber
  | fault => .malformed url (.shape fault)

end Failure

end MoveSkeleton
