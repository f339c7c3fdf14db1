import Dalvik.Method

/-!
# What the verifier asks about classes

The verifier knows classes only through the answers of an oracle. Nothing is assumed about them; the hierarchy of
registered classes is one oracle among others.

What an answer reports besides is a list of notes, kept as data in the order of their making. A note is shown as one
line of the log.
-/

namespace Dalvik

inductive Level where
  | error | warn | info | debug | trace

def Level.text : Level → String
  | error => "ERROR"
  | warn => "WARN"
  | info => "INFO"
  | debug => "DEBUG"
  | trace => "TRACE"

structure LogLine where
  level : Level
  message : String

/-- What is worth reporting about inheritance. -/
inductive InheritanceNote where
  /-- The superclass of the class is not registered. -/
  | missingSuperclass (type : Descriptor)
  | unknownInterface (interface type : Descriptor)
  | cycle (through : Descriptor)
  | noCommonSuperclass (left right : Descriptor)

def InheritanceNote.line : InheritanceNote → LogLine
  | missingSuperclass type => ⟨.warn, "add missing java.lang.Object inheritance to " ++ type.text⟩
  | unknownInterface interface type => ⟨.warn, "unknown interface " ++ interface.text ++ " implemented by " ++ type.text⟩
  | cycle through => ⟨.error, "cyclic inheritance through " ++ through.text⟩
  | noCommonSuperclass left right =>
    ⟨.warn, "no common superclass known for " ++ left.text ++ " and " ++ right.text ++ ", using "
      ++ Descriptor.javaLangObject.text⟩

structure ClassOracle where
  classDef? : Descriptor → Option ClassDef
  /-- Whether a value of the first type can be used where the second one is required. -/
  isAssignable : Descriptor → Descriptor → Bool
  /-- The nearest type both types are assignable to. -/
  commonSupertype? : Descriptor → Descriptor → Option Descriptor
  /-- What is reported while the common supertype is looked for. -/
  supertypeNotes : Descriptor → Descriptor → List InheritanceNote := fun _ _ => []
  superclass? : Descriptor → Option Descriptor := fun c => (classDef? c).bind ClassDef.superclass
  /-- Whether the method is a constructor of the class. -/
  isConstructorOf : MethodRef → Descriptor → Bool := fun m c =>
    m.isConstructor && m.definer = c && (classDef? c).all (·.declares m)

end Dalvik
