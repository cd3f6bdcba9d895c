import TypeFamily.Registry.Basic

/-!
Registrations as data. A contributor's work is a list of calls; running them keeps what is accepted
and passes over what is refused, so a registry that any contributors can build is the outcome of
such a run on an empty one.
-/

namespace TypeFamily.Registry

/-- One registration. -/
inductive Call (α γ : Type) where
  | declareType (d : TypeDecl)
  | registerPublicType (d : TypeDecl)
  | registerFactory (type : TypeName) (source : Option Source) (make : Factory α γ)
  | registerImplementation (type : TypeName) (source : Option Source) (i : Implementation α)
  | registerInternalView (type : TypeName) (source : Option Source) (view : TypeName)

variable {α γ : Type}

/-- Makes one registration. -/
def apply (r : Registry α γ) : Call α γ → Except RegistryError (Registry α γ)
  | .declareType d => r.declareType d
  | .registerPublicType d => r.registerPublicType d
  | .registerFactory t source make => r.registerFactory t source make
  | .registerImplementation t source i => r.registerImplementation t source i
  | .registerInternalView t source view => .ok (r.registerInternalView t source view)

/-- Whether a registration is accepted. -/
def accepts (r : Registry α γ) (c : Call α γ) : Bool :=
  match r.apply c with
  | .ok _ => true
  | .error _ => false

/-- The registry after one registration: as it was, if that is refused. -/
def step (r : Registry α γ) (c : Call α γ) : Registry α γ :=
  match r.apply c with
  | .ok r' => r'
  | .error _ => r

/-- The registry after a list of registrations, the refused ones passed over. -/
def run (r : Registry α γ) (calls : List (Call α γ)) : Registry α γ :=
  calls.foldl step r

/-- Makes every registration of a list, or stops at the first that is refused. -/
def applyAll (r : Registry α γ) (calls : List (Call α γ)) :
    Except RegistryError (Registry α γ) :=
  calls.foldlM apply r

/-- The registries that registrations can lead to, from an empty one. -/
def Reachable (r : Registry α γ) : Prop :=
  ∃ displayName root calls, r = (empty displayName root).run calls

end TypeFamily.Registry
