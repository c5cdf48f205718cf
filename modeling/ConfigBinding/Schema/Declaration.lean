import ConfigBinding.Value

/-!
# Declarations

A schema document lists the classes that a host reports. A class, its fields and its methods carry
modifiers and markers; a class that carries the `config` marker is a root.

* `DeclaredType`: the shape of a declared type;
* `Marker`: what a declaration says about its configuration;
* `ClassDecl`, `FieldDecl`, `MethodDecl`, `ClassMember`: declarations, built up with
  `ClassDecl.named`, `FieldDecl.named` and `MethodDecl.named`;
* `Document`, `Document.roots`.

In a running host a field has a `Setter`, which takes the values for it, and a method may be called.
-/

namespace ConfigBinding

/-- Where the values of a field go. A setter may refuse a value. -/
structure Setter where
  place : String
  accept : Value → Except ShapeError Unit

inductive ClassKind where
  | standard
  | interface
  | enumeration
  | annotationType
  deriving DecidableEq

structure Modifiers where
  isPublic : Bool := false
  isStatic : Bool := false
  isFinal : Bool := false
  isAbstract : Bool := false
  deriving DecidableEq

/-- What a declaration that is built up starts from. -/
def Modifiers.publicStatic : Modifiers := { isPublic := true, isStatic := true }

/-- What a change needs before it takes effect: a restart of the world, of the whole program. -/
structure Restart where
  world : Bool := false
  mc : Bool := false
  deriving DecidableEq

inductive Literal (α : Type) where
  | one (value : α)
  | many (values : List α)
  deriving DecidableEq

/-- What a declaration says about its configuration. -/
inductive Marker where
  /-- Makes a class a root. Without a language prefix there are no language keys; an empty property
      prefix stands for the root's name. -/
  | config (languagePrefix propertyPrefix : String)
  | exclude
  | requiresRestart (restart : Restart)
  | range (min max : Double)
  | onSync
  | defaultBoolean (value : Literal Bool)
  | defaultInt (value : Literal Int32)
  | defaultDouble (value : Literal Double)
  | defaultString (value : Literal String)
  deriving DecidableEq

inductive DeclaredType where
  | primitive (name : String)
  | array (component : DeclaredType)
  /-- A named type with its arguments and the parameters of each constructor. -/
  | declared (name : String) (args : List DeclaredType) (constructors : List (List DeclaredType))
  /-- Anything else, such as a type variable. -/
  | other (name : String)

/-- What all declarations have. -/
structure Element where
  name : String
  modifiers : Modifiers
  markers : List Marker
  deriving DecidableEq

structure FieldDecl extends Element where
  doc : Option String
  type : DeclaredType
  /-- Only in a running host. -/
  setter : Option Setter

structure MethodDecl extends Element where
  /-- Whether the method can be called, which is so only in a running host. -/
  callable : Bool

mutual

structure ClassDecl extends Element where
  package : Option String
  kind : ClassKind
  doc : Option String
  members : List ClassMember

inductive ClassMember where
  | nested (declaration : ClassDecl)
  | field (declaration : FieldDecl)
  | method (declaration : MethodDecl)

end

structure Document where
  declarations : List ClassDecl

namespace Element

/-- The first thing that a marker says, of those that `view` looks for. -/
def marker? {α : Type} (e : Element) (view : Marker → Option α) : Option α :=
  e.markers.findSome? view

def isExcluded (e : Element) : Bool := e.markers.any (· == .exclude)

def isOnSync (e : Element) : Bool := e.markers.any (· == .onSync)

/-- The prefixes of a root: for language keys and for property keys. -/
def config? (e : Element) : Option (String × String) :=
  e.marker? fun
    | .config languagePrefix propertyPrefix => some (languagePrefix, propertyPrefix)
    | _ => none

def restart? (e : Element) : Option Restart :=
  e.marker? fun
    | .requiresRestart restart => some restart
    | _ => none

def range? (e : Element) : Option (Double × Double) :=
  e.marker? fun
    | .range min max => some (min, max)
    | _ => none

end Element

namespace DeclaredType

def stringName : String := "java.lang.String"

def string : DeclaredType := .declared stringName [] []

/-- Adds a constructor to a declared type; other types have none. -/
def withConstructor (type : DeclaredType) (parameters : List DeclaredType) : DeclaredType :=
  match type with
  | .declared name args constructors => .declared name args (constructors ++ [parameters])
  | unchanged => unchanged

mutual

def text : DeclaredType → String
  | .primitive name => name
  | .other name => name
  | .array component => component.text ++ "[]"
  | .declared name [] _ => name
  | .declared name (first :: rest) _ => name ++ "<" ++ first.text ++ textRest rest ++ ">"

def textRest : List DeclaredType → String
  | [] => ""
  | type :: rest => ", " ++ type.text ++ textRest rest

end

end DeclaredType

namespace ClassDecl

/-- A public static class without members. -/
def named (name : String) : ClassDecl where
  name
  modifiers := .publicStatic
  markers := []
  package := none
  kind := .standard
  doc := none
  members := []

def qualifiedName (c : ClassDecl) : String :=
  match c.package with
  | none | some "" => c.name
  | some package => package ++ "." ++ c.name

end ClassDecl

/-- A public static field. -/
def FieldDecl.named (name : String) (type : DeclaredType) : FieldDecl where
  name
  modifiers := .publicStatic
  markers := []
  doc := none
  type
  setter := none

/-- A public static method. -/
def MethodDecl.named (name : String) : MethodDecl where
  name
  modifiers := .publicStatic
  markers := []
  callable := false

/-- The declarations that carry the `config` marker. -/
def Document.roots (document : Document) : List ClassDecl :=
  document.declarations.filter fun declaration => declaration.config?.isSome

end ConfigBinding
