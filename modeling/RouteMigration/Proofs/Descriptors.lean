import RouteMigration.Proofs.Migrations

/-!
# Descriptors

Every draft has the descriptor of its kind, with the properties in their order. The descriptor of a page
comes in at the end; that of a resource is there from the start, no attachment takes it away, and each one
adds its property.
-/

namespace RouteMigration.Proofs
open Syntax Route

variable {settings : Settings} {module : Module} {routePath : String}

/-- The key of a property. -/
def keyOf? (property : Node) : Option String :=
  match property.form with
  | .property key _ => some key
  | _ => none

/-- The keys of a descriptor: loader and component on a page, the methods of the handlers otherwise. -/
def descriptorKeys (loader action : Option Located) : Kind → List String
  | .page => ["loader", "component"]
  | .resource => (methodsOf loader action).map Prod.fst

lemma Attachment.key {kind : Kind} {draft : Draft} {key : String} {located : Located} {attached : Attached}
    (h : Attachment settings kind draft key located attached) : keyOf? attached.property = some key := by
  cases h with
  | kept _ _ _ _ _ hproperty _ => rw [keyOf?, hproperty]
  | moved _ _ _ _ _ _ hproperty _ => rw [keyOf?, hproperty]

/-- A draft with the descriptor, which stands last on a page. -/
structure HasDescriptor (settings : Settings) (routePath : String) (keys : List String) (kind : Kind)
    (draft : Draft) (properties : List Node) (node : Node) : Prop where
  distinct : Distinct draft
  mem : ⟨.descriptor, node⟩ ∈ draft.entries
  form : node.form = (descriptorOf settings routePath properties kind).form
  keys : properties.map keyOf? = keys.map some
  last : kind = .page → ∃ entries, draft.entries = entries ++ [⟨.descriptor, node⟩]

theorem page_hasDescriptor {default : DefaultExport} {loader : Located} {action : Option Located} {draft : Draft}
    (h : migratePage settings module routePath default loader action = .ok draft) :
    ∃ properties node, HasDescriptor settings routePath ["loader", "component"] .page draft properties node := by
  obtain ⟨attached, entries, hattach, hform, hdraft⟩ := migratePage_eq_ok h
  obtain ⟨before, after, component?, hdetach⟩ := detachDefault_eq settings (.ofBody module.body) default
  obtain ⟨hdistinct, hdescriptor, -⟩ := page_entries hdetach.distinct hdetach.origin_ne hattach hform hdraft
  refine ⟨_, _, hdistinct, hdescriptor, rfl, ?_, fun _ => ⟨entries, hdraft⟩⟩
  rw [List.map_cons, hattach.key]
  rfl

/-- What attaching the handlers of a resource keeps: the descriptor has the properties made so far, and the
keys of the handlers to come complete them. -/
structure Filling (settings : Settings) (routePath : String) (keys : List String) (draft : Draft)
    (properties : List Node) (rest : List (String × Located)) : Prop where
  distinct : Distinct draft
  mem : ∃ gap, ⟨.descriptor, withGap gap (resourceDescriptor settings routePath properties)⟩ ∈ draft.entries
  keys : properties.map keyOf? ++ (rest.map Prod.fst).map some = keys.map some

lemma Filling.step {keys : List String} {draft : Draft} {properties : List Node} {key : String}
    {located : Located} {rest : List (String × Located)} {attached : Attached}
    (h : Filling settings routePath keys draft properties ((key, located) :: rest))
    (hattach : Attachment settings .resource draft key located attached) (gap : Option String) :
    Filling settings routePath keys
      (withDescriptor settings routePath gap (properties ++ [attached.property]) attached.draft)
      (properties ++ [attached.property]) (handOver located attached.source rest) where
  distinct := distinct_modify (hattach.distinct h.distinct) _ _
  mem := by
    obtain ⟨gap', hmem⟩ := h.mem
    obtain ⟨node, hnode⟩ := hattach.descriptor_mem hmem
    exact ⟨gap, descriptor_mem_withDescriptor hnode gap _⟩
  keys := by
    rw [handOver_keys, List.map_append, List.map_singleton, hattach.key, List.append_assoc, ← h.keys]
    rfl

theorem resource_hasDescriptor {handlers : List (String × Located)} {draft : Draft} (hne : handlers ≠ [])
    (h : migrateResource settings module routePath handlers = .ok draft) :
    ∃ properties node,
      HasDescriptor settings routePath (handlers.map Prod.fst) .resource draft properties node := by
  obtain ⟨first, gap, attached, hrun, rfl⟩ := migrateResource_eq_ok hne h
  have hstart : Filling settings routePath (handlers.map Prod.fst)
      ((Draft.ofBody module.body).insertBefore (.statement first)
        ⟨.descriptor, withGap gap (resourceDescriptor settings routePath [])⟩) [] handlers :=
    ⟨distinct_start module.body first _, ⟨gap, mem_insertBefore.mpr (.inr rfl)⟩, rfl⟩
  obtain ⟨properties, hfilled⟩ := attachAll_run
    (fun _ _ _ _ _ _ gap hfilling hattach => hfilling.step hattach gap) hstart hrun
  obtain ⟨gap', hmem⟩ := hfilled.mem
  have hperm := settleDescriptor_perm hfilled.distinct
  refine ⟨properties, _, ?_, hperm.symm.subset hmem, rfl, by simpa using hfilled.keys, nofun⟩
  exact (hperm.map _).nodup_iff.mpr hfilled.distinct

/-- Every draft has the descriptor of its kind. -/
theorem Drafting.hasDescriptor {kind : Kind} {draft : Draft} (h : Drafting settings module routePath kind draft) :
    ∃ properties node, HasDescriptor settings routePath
      (descriptorKeys (locate module.body "loader") (locate module.body "action") kind) kind draft properties
      node := by
  cases h with
  | page _ _ _ hpage => exact page_hasDescriptor hpage
  | resource _ _ hhandlers hresource => exact resource_hasDescriptor hhandlers hresource

/-! ### What a descriptor refers to -/

lemma nodesOf_append {α : Type} (l l' : List (Piece α)) : nodesOf (l ++ l') = nodesOf l ++ nodesOf l' :=
  List.filterMap_append

lemma nodesOf_separated (nodes : List Node) (s : String) :
    nodesOf ((nodes.map Piece.node).intersperse (.text s)) = nodes := by
  induction nodes with
  | nil => rfl
  | cons n nodes ih =>
    cases nodes with
    | nil => rfl
    | cons m nodes =>
      rw [List.map_cons, List.map_cons, List.intersperse_cons_cons, ← List.map_cons]
      exact congrArg (n :: ·) ih

lemma children_join (kind : String) (nodes : List Node) (opening closing : String) :
    (Node.join kind nodes opening closing).children = nodes := by
  calc nodesOf (.text opening :: (nodes.map Piece.node).intersperse (.text ", ") ++ [.text closing])
    _ = nodesOf ((nodes.map Piece.node).intersperse (.text ", ")) ++ [] := nodesOf_append ..
    _ = nodes := by rw [List.append_nil, nodesOf_separated]

lemma referencedValues_callOf (callee : Node) (arguments : List Node) :
    (callOf callee arguments).referencedValues =
      callee.referencedValues ++ arguments.flatMap Node.referencedValues := by
  have harguments : (Node.join "arguments" arguments "(" ")").referencedValues =
      arguments.flatMap Node.referencedValues := by
    rw [referencedValues_eq, children_join]
    rfl
  rw [referencedValues_eq, ← harguments]
  exact congrArg (callee.referencedValues ++ ·) (List.append_nil _)

lemma referencedValues_exportedConstant (name : String) (value : Node) :
    (exportedConstant name value).referencedValues = name :: value.referencedValues := by
  have hdeclarator : (Node.make (.declarator (variableOf name) (some value) none)).referencedValues =
      name :: value.referencedValues := by
    rw [referencedValues_eq]
    exact congrArg (name :: ·) (List.append_nil _)
  have hconstant : (constant name value).referencedValues = name :: value.referencedValues := by
    rw [referencedValues_eq, ← hdeclarator]
    exact List.append_nil _
  rw [referencedValues_eq, ← hconstant]
  exact List.append_nil _

/-- The name of the function that makes a descriptor. -/
def factoryName (settings : Settings) : Kind → String
  | .page => settings.pageFactory
  | .resource => settings.resourceFactory

lemma referencedValues_descriptorOf (settings : Settings) (routePath : String) (properties : List Node)
    (kind : Kind) : (descriptorOf settings routePath properties kind).referencedValues =
      descriptorName settings kind :: factoryName settings kind ::
        properties.flatMap Node.referencedValues := by
  have hproperties : (Node.make (.objectExpression properties)).referencedValues =
      properties.flatMap Node.referencedValues := by
    rw [referencedValues_eq]
    rfl
  cases kind with
  | page =>
    rw [descriptorOf, pageDescriptor, referencedValues_exportedConstant, referencedValues_callOf,
      List.flatMap_singleton, hproperties]
    rfl
  | resource =>
    rw [descriptorOf, resourceDescriptor, referencedValues_exportedConstant, referencedValues_callOf,
      List.flatMap_singleton, hproperties]
    rfl

/-- Every draft refers to the factory of its descriptor. -/
lemma Drafting.factoryName_mem {kind : Kind} {draft : Draft} (h : Drafting settings module routePath kind draft) :
    factoryName settings kind ∈ draft.body.flatMap Node.referencedValues := by
  obtain ⟨properties, node, hdescriptor⟩ := h.hasDescriptor
  refine List.mem_flatMap.mpr ⟨node, List.mem_map_of_mem hdescriptor.mem, ?_⟩
  rw [referencedValues_congr hdescriptor.form, referencedValues_descriptorOf]
  exact List.mem_cons_of_mem _ (List.mem_cons_self ..)

lemma Drafting.factoryName_ne {kind : Kind} {draft : Draft} (h : Drafting settings module routePath kind draft)
    {name : String} (hunused : name ∉ draft.body.flatMap Node.referencedNames) : factoryName settings kind ≠ name := by
  rintro rfl
  obtain ⟨statement, hstatement, hvalue⟩ := List.mem_flatMap.mp h.factoryName_mem
  exact hunused (List.mem_flatMap.mpr ⟨statement, hstatement, referencedValues_subset _ hvalue⟩)

end RouteMigration.Proofs
