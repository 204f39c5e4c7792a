import MoveSkeleton.Proofs.Node.Matching
import MoveSkeleton.Proofs.Skeleton.Confinement
import MoveSkeleton.Proofs.Skeleton.Lockstep

/-! What is not read of the answers of a node makes no difference to a run. -/
namespace MoveSkeleton

/-- The same is taken from resources that are alike, whatever package is looked for. -/
theorem Resource.taken_eq_of_alike {rs rs' : List Resource}
    (h : List.Forall₂ Resource.Alike rs rs') : Resource.taken rs = Resource.taken rs' := by
  funext p
  have hregistry := Resource.registryOf_alike h
  unfold Resource.taken Resource.requirePackage
  generalize Resource.registryOf rs = x, Resource.registryOf rs' = y at hregistry
  cases hregistry with
  | none => rfl
  | @some g g' halike =>
    have hfind := Registry.find?_alike halike p.name
    dsimp only
    generalize g.find? p.name = q, g'.find? p.name = q' at hfind
    cases hfind with
    | none => rfl
    | some h => exact congrArg Except.ok (Prod.ext h.dependencies h.modules)

theorem Node.indistinct_matches (c : Client) : Node.Indistinct c (Node.Matches c) where
  ask url h := (h.ask url).2
  resources {_ _ url account} hurl h :=
    (h.ask url).1.map_valueAt (Answer.takenResources url) fun _ _ hbody =>
      ((Answer.corresponding_resourcesOf (hbody.resources account hurl)).mono fun _ _ h =>
        Resource.taken_eq_of_alike h).map_eq
  interface {_ _ url account module} hurl h :=
    (h.ask url).1.map_valueAt (Answer.takenInterface url) fun _ _ hbody =>
      (Answer.corresponding_interfaceOf (hbody.interface account module hurl)).map_eq

namespace Skeleton

open Activity

variable {N : Node → Node → Prop} {c : Client} {root : PackageId} {target folder : Path}
  {a b : List Request} {w : World} {n : Node}

/-- Clearing a folder asks nothing of the node. -/
theorem together_clear_eq : RunAbreast Eq N a b (clear folder) (clear folder) := by
  have hdisk : Together Eq (Disk.removeFolder folder) (Disk.removeFolder folder) (fun _ _ => Eq)
      Eq := by
    rintro d _ rfl
    rcases (Disk.removeFolder folder).run.run d with ⟨_ | _, _⟩
    exacts [.failed rfl, .returned rfl]
  have hremove : RunAbreast Eq N a b (onDisk (Disk.removeFolder folder))
      (onDisk (Disk.removeFolder folder)) :=
    together_onDisk hdisk (fun _ _ h => h.disk)
      (fun _ _ h _ _ _ _ hd => ⟨rfl, h.withDisk hd⟩) fun _ _ h _ _ hd => h.withDisk hd
  have hfound : ∀ r : Except Failure Bool, RunAbreast Eq N a b (ofResult r) (ofResult r) := by
    refine fun r => together_ofResult fun w v h => ?_
    cases r with
    | ok found => exact .returned ⟨rfl, h⟩
    | error e => exact .failed h
  unfold clear
  refine .get_bind fun w v h => ?_
  rw [h.disk]
  refine (hfound _).bind_of (fun found _ hfound => hfound ▸ ?_) w v h
  cases found with
  | true => exact (together_noting _ _).bind_of fun _ _ _ => hremove
  | false => exact .pure fun _ _ h => ⟨rfl, h⟩

/-- Two runs on the same disk, whose nodes cannot be told apart. -/
theorem together_create_of_indistinct (hN : Node.Indistinct c N) :
    Together (Abreast Eq N a b) (create c root target) (create c root target)
      (fun x y w v => x = y ∧ Abreast (Disk.Same True) N a b w v)
      (Abreast (Disk.Same True) N a b) := by
  have hsame : ∀ w v, Abreast Eq N a b w v → Abreast (Disk.Same True) N a b w v := fun w v h =>
    ⟨h.disk ▸ .refl True w.disk, h.node, h.requests⟩
  rw [create_eq]
  refine (together_clear_eq.mono (fun _ _ h => h) (fun _ _ w v h => ⟨h.1, hsame w v h.2⟩)
    hsame).bind_of fun _ _ _ => ?_
  exact together_createCleared_same hN fun _ => trivial

/-- What is not read of the answers of a node makes no difference to a run: at nodes whose answers
match in all that is read of them, it asks for the same, comes to the same and leaves the same. -/
theorem create_of_matches (h : Node.Matches c w.node n) :
    let v : World := { w with node := n }
    let w' := after (create c root target) w
    let v' := after (create c root target) v
    ((create c root target).run.run w).1 = ((create c root target).run.run v).1 ∧
      w'.requests = v'.requests ∧ ∀ k, w'.disk.item? k = v'.disk.item? k := by
  have hboth : Together (Abreast Eq (Node.Matches c) w.requests w.requests) (create c root target)
      (create c root target) _ _ := together_create_of_indistinct (Node.indistinct_matches c)
  obtain ⟨houtcome, hend⟩ := (hboth w { w with node := n } ⟨rfl, h, [], by simp, by simp⟩).fst_eq
  obtain ⟨made, hw, hv⟩ := hend.requests
  exact ⟨houtcome, hw.trans hv.symm, hend.disk.item⟩

namespace Sample

open MoveSkeleton.Sample Resolution.Sample Json

/-- The interface of a module with one function, of whose object these are more fields. -/
def telling (fields : Entries Text Json) : Json :=
  .object [("abi", .object [("address", .text "0xa"), ("name", .text "p"),
    ("exposed_functions", .list [.object (("name", .text "f") :: fields)])])]

/-- A package with that module. -/
def tellingNode (fields : Entries Text Json) : Node :=
  [(client.resourcesUrl "0xa", [answer (resources [package "P" [] ["p"]])]),
    (client.interfaceUrl "0xa" "p", [answer (telling fields)])]

def tellingWorld (fields : Entries Text Json) : World where
  node := tellingNode fields
  disk := Disk.blank ["w"]

/-- The package with its fields in another order and more of them, and with upgrades. -/
def dressedResources : Json :=
  .list [.object [("data", .object [("packages", .list [.object
      [("modules", .list [.object [("source", .text ""), ("name", .text "p")]]),
        ("upgrade_policy", .object [("policy", .int 2)]), ("upgrade_number", .text "7"),
        ("source_digest", .text "00"), ("deps", .list []), ("name", .text "P")]]),
      ("seed", .null)]),
    ("type", .text registryType)]]

/-- The function is a view, the module has a friend, and neither is public. -/
def dressedInterface : Json :=
  .object [("bytecode", .text "0x"), ("abi", .object [("name", .text "p"),
    ("friends", .list [.text "0xa::q"]),
    ("exposed_functions", .list [.object [("visibility", .text "friend"), ("is_view", .bool true),
      ("name", .text "f")]]),
    ("address", .text "0xa")])]

def dressed : Node :=
  [(client.resourcesUrl "0xa", [answer dressedResources]),
    (client.interfaceUrl "0xa" "p", [answer dressedInterface])]

/-- Bodies that match whatever is read of them. -/
private theorem matches_answer {c : Client} {url : Text} {v w : Json}
    (h : Corresponding (fun x y => Listed (Fielded Resource.FieldsMatch) x y ∧
      Fielded (AtField "abi" (Fielded Interface.FieldsMatch)) x y) (decode v.print.toUTF8)
        (decode w.print.toUTF8)) : Answer.Matches c url (answer v) (answer w) :=
  .bodies 200 (h.mono fun _ _ h => ⟨fun _ _ => h.1, fun _ _ _ => h.2⟩)

theorem dressed_matches : Node.Matches client (tellingNode []) dressed :=
  Node.matches_of_forall₂ (.cons ⟨rfl, .cons (matches_answer (by decide +kernel)) .nil⟩
    (.cons ⟨rfl, .cons (matches_answer (by decide +kernel)) .nil⟩ .nil))

end Sample

/-- For fields in another order, fields that are not read, upgrades, a friend and a view. -/
theorem create_of_matches_dressed :
    let c := MoveSkeleton.Sample.client
    let w := Sample.tellingWorld []
    let v : World := { w with node := Sample.dressed }
    let root := Sample.rootPackage
    let target := Path.ofText "out"
    Node.Matches c w.node v.node ∧
      ((create c root target).run.run w).1 = ((create c root target).run.run v).1 ∧
      (after (create c root target) w).requests = (after (create c root target) v).requests ∧
        ∀ k, (after (create c root target) w).disk.item? k =
          (after (create c root target) v).disk.item? k :=
  ⟨Sample.dressed_matches, create_of_matches Sample.dressed_matches⟩

/-- A function is an entry if an object with a field stands there, whatever the field is, and none
if an object without fields does. -/
theorem unread_field_changes_source :
    let c := MoveSkeleton.Sample.client
    let w := Sample.tellingWorld [("is_entry", .object [("x", .null)])]
    let v := Sample.tellingWorld [("is_entry", .object [])]
    let root := Sample.rootPackage
    let target := Path.ofText "out"
    ∃ k, (after (create c root target) w).disk.item? k ≠
      (after (create c root target) v).disk.item? k := by
  intro c w v root target
  obtain ⟨hw, hv, hne⟩ : Sample.Alone w Sample.outFolder ∧ Sample.Alone v Sample.outFolder ∧
      (Sample.finished w Sample.outFolder).disk.item? ["w", "out", "P", "sources", "p.move"] ≠
        (Sample.finished v Sample.outFolder).disk.item? ["w", "out", "P", "sources", "p.move"] := by
    decide +kernel
  refine ⟨["w", "out", "P", "sources", "p.move"], ?_⟩
  rw [(hw.returns rfl rfl).after_eq, (hv.returns rfl rfl).after_eq]
  exact hne

end Skeleton

end MoveSkeleton
