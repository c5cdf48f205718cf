import ConfigBinding.Diagnostic
import ConfigBinding.Layout.Basic
import ConfigBinding.Schema.Default
import ConfigBinding.Schema.Resolution
import ConfigBinding.Text.Identifier

/-!
# From declarations to layouts

A root declaration is gone through in order, which gives its layout and what there is to report
about it (`ClassDecl.survey`). Standard classes that are not excluded become categories, and their
fields that are neither final nor excluded become fields. Most of what is wrong is reported and gone
on from; only a root that is not a standard class, or that has several methods to call after a sync,
has no layout.
-/

namespace ConfigBinding

def ClassDecl.isCategory (c : ClassDecl) : Bool := !c.isExcluded && c.kind == .standard

def FieldDecl.isConfigured (f : FieldDecl) : Bool := !f.modifiers.isFinal && !f.isExcluded

/-- Reports what keeps generated code from using a declaration. -/
def Element.surveyUse (e : Element) (site : String) : Diagnostics :=
  (if e.modifiers.isPublic then [] else [.error .structural site "Expected public" []]) ++
  (if e.modifiers.isStatic then [] else [.error .structural site "Expected static" []]) ++
  (if e.modifiers.isAbstract then [.error .structural site "Unexpected abstract" []] else [])

/-- A doc without the white space around it, if anything is left. -/
def description? (doc : Option String) : Option String :=
  (doc.map Text.trim).filter fun text => text ≠ ""

/-- Reports every name that is rendered like another one before it; `seen` are the identifiers of
    the names before, each with the first of them. -/
def surveyNames (owner : String) (seen : List (String × String)) : List String → Diagnostics
  | [] => []
  | name :: rest =>
    let rendered := Text.identifier name
    match seen.lookup rendered with
    | some first =>
      if first = name then surveyNames owner seen rest
      else
        .warning .structural (owner ++ "." ++ name)
            ("Renders as `" ++ rendered ++ "`, same as `" ++ first ++ "`")
            ["generated code for this category will not compile"] ::
          surveyNames owner seen rest
    | none => surveyNames owner ((rendered, name) :: seen) rest

/-- The bounds of a field of a type, and a warning where the type has none. -/
def FieldType.surveyRange (type : FieldType) (site : String) (range : Option (Double × Double)) :
    Option FieldRange × Diagnostics :=
  match range with
  | none => (none, [])
  | some (min, max) =>
    match type with
    | .int => (some (.int min.toInt32 max.toInt32), [])
    | .double => (some (.double min max), [])
    | other => (none, [.warning .type site ("Range has no effect on " ++ other.text) []])

def FieldDecl.survey (owner : String) (f : FieldDecl) : Field × Diagnostics :=
  let site := owner ++ "." ++ f.name
  let use := f.surveyUse site
  let unusable : Field :=
    { name := f.name
      description := description? f.doc
      owner
      type := none
      default := none
      restart := f.restart?.getD {}
      range := none
      setter := f.setter }
  let type := f.type.resolve
  match type.validate with
  | .error e => (unusable, use ++ [.error .type site e.message ["declared as " ++ f.type.text]])
  | .ok () =>
    match f.resolveDefault? type with
    | none => (unusable, use)
    | some resolved =>
      let mismatch : Diagnostics :=
        match resolved.mismatch with
        | none => []
        | some m => [.error .defaultShape site m.message ["using " ++ resolved.value.describe]]
      let (range, ranges) := type.surveyRange site f.range?
      ({ unusable with type := some type, default := some resolved.value, range },
        use ++ mismatch ++ ranges)

/-- What the members of a class become. -/
structure Contents where
  children : List Category
  fields : List Field
  diagnostics : Diagnostics

mutual

/-- The category of a class inside the category or root with a handle. `parent` is the category's
    name, which the root does not have. -/
def ClassDecl.surveyCategory (parent : Option String) (parentHandle : String) :
    ClassDecl → Option Category × Diagnostics
  | c@{ members, .. } =>
    if !c.isCategory then (none, [])
    else
      let handle := parentHandle ++ "." ++ c.name
      let segment := Text.lowercase c.name
      let name :=
        match parent with
        | some parent => parent ++ "." ++ segment
        | none => segment
      let use := c.surveyUse handle
      let final : Diagnostics :=
        if c.modifiers.isFinal then [.error .structural handle "Unexpected final" []] else []
      let contents := ClassMember.surveyContents name handle members
      let names :=
        contents.children.map (fun child => child.ident) ++
          contents.fields.map (fun field => field.name)
      let category : Category :=
        { name
          ident := c.name
          handle
          description := description? c.doc
          restart := c.restart?.getD {}
          children := contents.children
          fields := contents.fields }
      (some category, use ++ final ++ contents.diagnostics ++ surveyNames handle [] names)

def ClassMember.surveyContents (name handle : String) : List ClassMember → Contents
  | [] => ⟨[], [], []⟩
  | .nested c :: rest =>
    let (child, diagnostics) := c.surveyCategory (some name) handle
    let others := ClassMember.surveyContents name handle rest
    ⟨child.toList ++ others.children, others.fields, diagnostics ++ others.diagnostics⟩
  | .field f :: rest =>
    let others := ClassMember.surveyContents name handle rest
    if f.isConfigured then
      let (field, diagnostics) := f.survey handle
      ⟨others.children, field :: others.fields, diagnostics ++ others.diagnostics⟩
    else others
  | .method _ :: rest => ClassMember.surveyContents name handle rest

end

structure RootContents where
  categories : List Category
  hooks : List MethodDecl
  diagnostics : Diagnostics

def ClassMember.surveyRoot (root : String) : ClassMember → RootContents
  | .nested c =>
    let (category, diagnostics) := c.surveyCategory none root
    ⟨category.toList, [], diagnostics⟩
  | .field f =>
    if f.isConfigured then
      ⟨[], [],
        [.warning .structural (root ++ "." ++ f.name) "Fields must be declared inside a category"
          ["fields on the config root are ignored"]]⟩
    else ⟨[], [], []⟩
  | .method m =>
    if m.isOnSync then ⟨[], [m], m.surveyUse (root ++ "." ++ m.name)⟩ else ⟨[], [], []⟩

def RootContents.ofMembers (root : String) (members : List ClassMember) : RootContents :=
  let parts := members.map (ClassMember.surveyRoot root)
  ⟨parts.flatMap RootContents.categories, parts.flatMap RootContents.hooks,
    parts.flatMap RootContents.diagnostics⟩

/-- The layout of a root, if it has one, and everything there is to report about the root. -/
def ClassDecl.survey (root : ClassDecl) : Option Layout × Diagnostics :=
  if root.kind ≠ .standard then
    (none, [.error .schema root.qualifiedName "Only classes can be annotated with config" []])
  else
    let contents := RootContents.ofMembers root.name root.members
    match contents.hooks with
    | first :: second :: others =>
      let names := (first :: second :: others).map fun hook => hook.name
      (none,
        contents.diagnostics ++
          [.error .schema root.qualifiedName "Only one on-sync hook is allowed"
            ["found " ++ String.intercalate ", " names]])
    | hooks =>
      let (languagePrefix, propertyPrefix) := root.config?.getD ("", "")
      let layout : Layout :=
        { root := root.name
          handle := root.qualifiedName
          languagePrefix := if languagePrefix = "" then none else some languagePrefix
          propertyPrefix := if propertyPrefix = "" then root.name else propertyPrefix
          categories := contents.categories
          onSync := hooks.head?.map fun hook => ⟨hook.name, hook.callable⟩ }
      (some layout,
        contents.diagnostics ++
          surveyNames root.name [] (contents.categories.map fun category => category.ident))

end ConfigBinding
