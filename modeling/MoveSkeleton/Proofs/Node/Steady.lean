import MoveSkeleton.Json.Printer
import MoveSkeleton.World

/-! Nodes that give one fixed answer at each address, and what is read from them. -/
namespace MoveSkeleton

/-- The answers to come at an address are all the same. -/
def Node.Steady (n : Node) : Prop :=
  ∀ url answers, Entries.get? n url = some answers → ∀ a ∈ answers, ∀ b ∈ answers, a = b

/-- The second node is steady and answers as the first does. -/
structure Node.Alike (n m : Node) : Prop where
  steady : m.Steady
  same : ∀ url, (m.ask url).1 = (n.ask url).1

namespace Node

variable {n m : Node}

theorem Steady.alike (h : n.Steady) : n.Alike n :=
  ⟨h, fun _ => rfl⟩

/-- A node with at most one answer at each address is steady. -/
theorem steady_of_length_le_one (h : ∀ e ∈ n, e.2.length ≤ 1) : n.Steady := by
  intro url answers hg a ha b hb
  have hl := h _ (Entries.mem_of_get? hg)
  match answers with
  | [] => cases ha
  | [x] => rw [List.mem_singleton.mp ha, List.mem_singleton.mp hb]
  | _ :: _ :: _ => simp at hl

theorem ask_of_cons {url : Text} {a b : Answer} {rest : List Answer}
    (h : Entries.get? n url = some (a :: b :: rest)) :
    n.ask url = (a, Entries.put n url (b :: rest)) := by
  simp only [ask, h]

theorem ask_snd_of_short {url : Text} (h : ∀ a b rest, Entries.get? n url ≠ some (a :: b :: rest)) :
    (n.ask url).2 = n := by
  unfold ask
  split
  · next a b rest hg => exact absurd hg (h a b rest)
  all_goals rfl

/-- What a steady node answers next it answers always. -/
theorem Steady.ask (h : n.Steady) (url : Text) : n.Alike (n.ask url).2 := by
  by_cases hg : ∃ a b rest, Entries.get? n url = some (a :: b :: rest)
  · obtain ⟨a, b, rest, hg⟩ := hg
    rw [ask_of_cons hg]
    have hab : b = a := h url _ hg b (by simp) a (by simp)
    constructor
    · intro url' answers hg' x hx y hy
      rw [Entries.get?_put] at hg'
      split at hg'
      · obtain rfl := Option.some.inj hg'
        exact h url _ hg x (List.mem_cons_of_mem _ hx) y (List.mem_cons_of_mem _ hy)
      · exact h url' answers hg' x hx y hy
    · intro url'
      by_cases hu : url' = url
      · subst hu
        rw [ask_of_cons hg]
        unfold Node.ask
        rw [Entries.get?_put, if_pos rfl]
        cases rest <;> exact hab
      · unfold Node.ask
        rw [Entries.get?_put, if_neg hu]
        rcases Entries.get? n url' with _ | _ | ⟨a, _ | ⟨b, rest⟩⟩ <;> rfl
  · rw [ask_snd_of_short fun a b rest h' => hg ⟨a, b, rest, h'⟩]
    exact h.alike

theorem Alike.ask (h : n.Alike m) (url : Text) : n.Alike (m.ask url).2 :=
  ⟨(h.steady.ask url).steady, fun url' => ((h.steady.ask url).same url').trans (h.same url')⟩

end Node

namespace Client

variable {c : Client} {n : Node} {w w' : World}

theorem request_fst_of_same {url account : Text}
    (h : ∀ url, (w'.node.ask url).1 = (w.node.ask url).1) :
    (c.request url account w').1 = (c.request url account w).1 := by
  unfold request
  cases Address.fault? url with
  | some fault => rfl
  | none => simp only [h]

/-- At nodes that answer alike the same resources are read. -/
theorem readResources_fst_of_alike {account : Text} (h : w.node.Alike w'.node) :
    (c.readResources account w').1 = (c.readResources account w).1 := by
  simp only [readResources, request_fst_of_same h.same]

/-- At nodes that answer alike the same interfaces are read. -/
theorem readInterface_fst_of_alike {account module : Text} (h : w.node.Alike w'.node) :
    (c.readInterface account module w').1 = (c.readInterface account module w).1 := by
  simp only [readInterface, request_fst_of_same h.same]

theorem request_disk (c : Client) (url account : Text) (w : World) :
    (c.request url account w).2.disk = w.disk := by
  unfold request
  cases Address.fault? url <;> rfl

theorem request_alike {url account : Text} (h : n.Alike w.node) :
    n.Alike (c.request url account w).2.node := by
  unfold request
  cases Address.fault? url with
  | some fault => exact h
  | none => exact h.ask url

theorem readResources_fst (c : Client) (account : Text) (w : World) :
    (c.readResources account w).1 = (c.request (c.resourcesUrl account) account w).1.bind
      (Answer.resourcesOf (c.resourcesUrl account)) := by
  simp only [readResources]

theorem readResources_snd (c : Client) (account : Text) (w : World) :
    (c.readResources account w).2 = (c.request (c.resourcesUrl account) account w).2 := by
  simp only [readResources]

theorem readInterface_fst (c : Client) (account module : Text) (w : World) :
    (c.readInterface account module w).1 =
      (c.request (c.interfaceUrl account module) account w).1.bind
        (Answer.interfaceOf (c.interfaceUrl account module)) := by
  simp only [readInterface]

theorem readInterface_snd (c : Client) (account module : Text) (w : World) :
    (c.readInterface account module w).2 =
      (c.request (c.interfaceUrl account module) account w).2 := by
  simp only [readInterface]

end Client

namespace Sample

def client : Client := ⟨"https://test.rpc", none⟩

def answer (v : Json) : Answer := .reply 200 v.print.toUTF8

/-- A package as a registry lists it, with its dependencies and its modules. -/
def package (name : Text) (dependencies : List (Text × Text)) (modules : List Text) : Json :=
  .object [("name", .text name),
    ("deps", .list (dependencies.map fun d =>
      .object [("account", .text d.1), ("package_name", .text d.2)])),
    ("modules", .list (modules.map fun m => .object [("name", .text m)]))]

def resources (packages : List Json) : Json :=
  .list [.object [("type", .text registryType),
    ("data", .object [("packages", .list packages)])]]

def interface (address name : Text) : Json :=
  .object [("abi", .object [("address", .text address), ("name", .text name)])]

/-- `P` needs `Q` and a framework package, `Q` needs `R` and `P` again. -/
def node : Node :=
  [(client.resourcesUrl "0xa",
      [answer (resources [package "P" [("0xb", "Q"), ("0x1", "AptosStdlib")] ["p"]])]),
    (client.resourcesUrl "0xb",
      [answer (resources [package "Q" [("0xc", "R"), ("0xa", "P")] ["q"]])]),
    (client.resourcesUrl "0xc", [answer (resources [package "R" [] []])]),
    (client.interfaceUrl "0xa" "p", [answer (interface "0xa" "p")]),
    (client.interfaceUrl "0xb" "q", [answer (interface "0xb" "q")])]

def world : World := { node := node, disk := Disk.blank ["w"] }

theorem node_steady : node.Steady :=
  Node.steady_of_length_le_one (by decide +kernel)

end Sample

end MoveSkeleton
