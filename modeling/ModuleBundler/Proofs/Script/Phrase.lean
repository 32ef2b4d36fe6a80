import ModuleBundler.Proofs.Script.Laid
import ModuleBundler.Script.Grammar.Class

/-!
Keys, patterns and functions are laid out in the text if the phrases inside of them are.
-/

namespace ModuleBundler.Script

def LaysPhrases (source : List Char) (grammar : Grammar) : Prop :=
  ∀ goal, Lays source (fun node => [node]) (grammar goal)

theorem peeks_atAsyncFunction : Peeks atAsyncFunction :=
  (peeks_atKeyword "async").bind fun _ => .ite (peeks_upcoming.bind fun _ => .pure) .pure

theorem peeks_mayHoldParameters (opening : Token) : Peeks (mayHoldParameters opening) := by
  refine Peeks.lift.bind fun first => ?_
  split
  · exact .pure
  · exact .ite .pure (Peeks.lift.bind fun _ => .pure)
  · exact .pure

variable {source : List Char}

theorem lays_expectArrow : Lays source (fun _ => []) expectArrow :=
  .opening fun _ => .ite .fail (.keep (lays_expectSign "=>"))

theorem lays_eatModifier (name : String) (sameLine : Bool) (modifiable : Token → Bool) :
    Lays source (fun _ => []) (eatModifier name sameLine modifiable) := by
  refine .of_extends fun _ => .bind (.keep (peeks_atKeyword name).lays) fun _ => .ite ?_ (.pure rfl)
  refine .bind (.keep peeks_upcoming.lays) fun _ => .ite ?_ (.pure rfl)
  exact .bind (.keep lays_advance) fun _ => .pure rfl

theorem lays_eatAccessor : Lays source (fun _ => []) eatAccessor :=
  .of_extends fun _ => .bind (.keep (lays_eatModifier _ _ _)) fun _ =>
    .ite (.pure rfl) (.keep (lays_eatModifier _ _ _))

theorem lays_modifiers : Lays source (fun _ => []) modifiers := by
  refine .of_extends fun start => .bind (.keep (lays_eatModifier _ _ _)) fun isStatic => ?_
  refine .bind (.keep (lays_eatModifier _ _ _)) fun isAsync => ?_
  refine .bind (.keep (lays_eatSign "*")) fun isGenerator => ?_
  have rest (isAccessor : Bool) : Extends source start [] (fun _ => []) (do
      if !isAsync && !isGenerator && !isAccessor then
        let _ ← eatModifier "accessor" true Token.startsKey
      return ({ isStatic, isAsync, isGenerator, isAccessor } : Modifiers)) :=
    .ite (.bind (.keep (lays_eatModifier _ _ _)) fun _ => .pure rfl) (.pure rfl)
  exact .ite (.bind (.keep lays_eatAccessor) rest) (.bind (.pure rfl) rest)

variable {grammar : Grammar} (lays : LaysPhrases source grammar)
include lays

theorem lays_propertyKey (setting : Setting) :
    Lays source (fun node => [node]) (propertyKey grammar setting) := by
  refine .looking fun cursor frame => ?_
  have reads := frame.token.reads
  split
  · rename_i name escaped lexeme
    rw [lexeme] at reads
    exact laysAt_token frame (fun _ => .inr reads.1) rfl
  · exact lays_textLiteral cursor frame
  · exact laysAt_token frame nofun rfl
  · exact laysAt_token frame nofun rfl
  · refine Extends.laysAt (.bind (.keep (lays_expectSign "[")) fun _ => ?_) frame
    exact .bind (.read (lays _)) fun key => .bind (.keep (lays_expectSign "]")) fun _ =>
      .close (.refl _) rfl rfl

theorem lays_elementKey (setting : Setting) :
    Lays source (fun node => [node]) (elementKey grammar setting) := by
  refine .looking fun cursor frame => ?_
  split
  · exact laysAt_token frame nofun rfl
  · exact lays_propertyKey lays setting cursor frame

theorem lays_defaultable (setting : Setting) :
    Lays source (fun node => [node]) (defaultable grammar setting) := by
  refine .opening fun token => .bind (.read (lays _)) fun pattern => ?_
  refine .bind (.keep (lays_eatSign "=")) fun _ => .ite ?_ (.pure rfl)
  exact .bind (.read (lays _)) fun value => .close (.refl _) rfl rfl

theorem lays_restPattern (setting : Setting) (closing : String) :
    Lays source (fun node => [node]) (restPattern grammar setting closing) := by
  refine .opening fun token => .bind (.keep (lays_expectSign "...")) fun _ => ?_
  refine .bind (.read (lays _)) fun pattern => .bind (.keep (peeks_atSign closing).lays) fun _ => ?_
  exact .ite (.close (.refl _) rfl rfl) .fail

/-- A name in an object pattern stands for the property of that name, with a default behind it or without
one. -/
theorem laysAt_shorthandProperty {cursor : Cursor} (frame : Frame source cursor.token.start [] cursor)
    (setting : Setting) :
    LaysAt source (fun node => [node]) (do
      let name ← binding setting
      if ← eatSign "=" then
        let value ← grammar (.assignment setting.enclosed)
        let defaulted ← close .defaulted cursor.token.start [name, value]
        close .patternProperty cursor.token.start [defaulted]
      else return .mk .patternProperty cursor.token.span [name]) cursor := by
  intro found after ended
  obtain ⟨name, middle, bound, rest⟩ := reading_bind_eq_ok.1 ended
  obtain ⟨between, onward⟩ := lays_binding setting cursor frame bound
  obtain ⟨spelled, rfl⟩ := readName_eq_ok bound
  obtain ⟨equals, last, eaten, ending⟩ := reading_bind_eq_ok.1 rest
  obtain ⟨behind, further⟩ := Extends.keep (lays_eatSign "=") between eaten
  have ends : Extends source cursor.token.start [.mk (.binding spelled) cursor.token.span []]
      (fun node => [node]) (if equals = true then do
        let value ← grammar (.assignment setting.enclosed)
        let defaulted ← close .defaulted cursor.token.start
          [.mk (.binding spelled) cursor.token.span [], value]
        close .patternProperty cursor.token.start [defaulted]
      else return .mk .patternProperty cursor.token.span [.mk (.binding spelled) cursor.token.span []]) := by
    refine .ite (.bind (.read (lays _)) fun _ => ?_) (.wrap (by simp [Node.shape]) rfl rfl)
    exact .bind (.close (.refl _) rfl rfl) fun _ => .close (.refl _) rfl rfl
  obtain ⟨final, onwards⟩ := ends behind ending
  exact ⟨final, onward.trans (further.trans onwards)⟩

theorem lays_patternProperty (setting : Setting) :
    Lays source (fun node => [node]) (patternProperty grammar setting) := by
  refine .looking fun cursor frame => .ite (Extends.laysAt ?_ frame) ?_
  · refine .bind (.read (lays_restPattern lays setting "\x7d")) fun rest => ?_
    split
    · exact .pure rfl
    · exact .fail
  refine peeks_upcoming.laysAt_bind fun next => .ite ?_ (Extends.laysAt ?_ frame)
  · exact laysAt_shorthandProperty lays frame setting
  · refine .bind (.read (lays_propertyKey lays setting)) fun key => ?_
    refine .bind (.keep (lays_expectSign ":")) fun _ => ?_
    exact .bind (.read (lays_defaultable lays setting)) fun value => .close (.refl _) rfl rfl

theorem lays_patternElement (setting : Setting) :
    Lays source (fun node => [node]) (patternElement grammar setting) := by
  refine .of_extends fun start => .bind (.keep (peeks_atSign ",").lays) fun _ => .ite .absent ?_
  refine .bind (.keep (peeks_atSign "...").lays) fun _ => .ite ?_ ?_
  · exact .read (lays_restPattern lays setting "]")
  · exact .read (lays_defaultable lays setting)

theorem lays_pattern (setting : Setting) :
    Lays source (fun node => [node]) (pattern grammar setting) := by
  refine .opening fun token => .bind (.keep (lays_eatSign "[")) fun _ => .ite ?_ ?_
  · refine .bind (.read (lays_commaSeparated (lays_patternElement lays setting))) fun (elements, _) => ?_
    exact .close (.refl _) rfl rfl
  refine .bind (.keep (lays_eatSign "\x7b")) fun _ => .ite ?_ (.read (lays_binding setting))
  refine .bind (.read (lays_commaSeparated (lays_patternProperty lays setting))) fun (properties, _) => ?_
  exact .close (.refl _) rfl rfl

theorem lays_parameters (setting : Setting) : Lays source id (parameters grammar setting) := by
  have each : Lays source (fun node => [node]) (do
      if ← atSign "..." then restPattern grammar setting ")" else defaultable grammar setting) :=
    .of_extends fun start => .bind (.keep (peeks_atSign "...").lays) fun _ =>
      .ite (.read (lays_restPattern lays setting ")")) (.read (lays_defaultable lays setting))
  refine .of_extends fun start => .bind (.keep (lays_expectSign "(")) fun _ => ?_
  exact .bind (.read (lays_commaSeparated each)) fun (found, _) => .pure rfl

theorem lays_block (setting : Setting) (position : Position) :
    Lays source (fun node => [node]) (block grammar setting position) := by
  refine .opening fun token => .bind (.keep (lays_expectSign "\x7b")) fun _ => ?_
  refine .bind (.read (lays_repeatUntil fun start found => ?_)) fun statements =>
    .close (.refl _) rfl rfl
  refine .bind (.keep (lays_eatSign "\x7d")) fun _ => .ite (.pure rfl) ?_
  exact .bind (.read (lays _)) fun statement => .pure (Array.toList_push ..)

theorem lays_functionRest (isAsync isGenerator : Bool) :
    Lays source id (functionRest grammar isAsync isGenerator) :=
  .of_extends fun _ => .bind (.read (lays_parameters lays _)) fun _ =>
    .bind (.read (lays_block lays _ _)) fun _ => .pure rfl

theorem extends_methodRest (isAsync isGenerator : Bool) (start : Nat) (key : Node) :
    Extends source start [key] (fun node => [node])
      (methodRest grammar isAsync isGenerator start key) :=
  .bind (.read (lays_functionRest lays _ _)) fun _ => .close (.refl _) rfl rfl

theorem lays_function (surroundings : Option Setting) (named : Bool) :
    Lays source (fun node => [node]) (function grammar surroundings named) := by
  refine .opening fun token => .bind (.keep (lays_eatKeyword "async")) fun isAsync => ?_
  refine .bind (.keep (lays_expectKeyword "function")) fun _ => ?_
  refine .bind (.keep (lays_eatSign "*")) fun isGenerator => ?_
  refine .bind (.keep (peeks_atSign "(").lays) fun _ => ?_
  have rest (name : Node) : Extends source token.start [name] (fun node => [node]) (do
      let inside ← functionRest grammar isAsync isGenerator
      close .function token.start (name :: inside)) :=
    .bind (.read (lays_functionRest lays _ _)) fun _ => .close (.refl _) rfl rfl
  exact .ite (.bind .absent rest) (.bind (.read (lays_binding _)) rest)

theorem extends_arrowBody (setting : Setting) (isAsync : Bool) (start : Nat) (parameters : List Node) :
    Extends source start parameters (fun node => [node])
      (arrowBody grammar setting isAsync start parameters) := by
  refine .bind (.keep (peeks_atSign "\x7b").lays) fun _ => .ite ?_ ?_
  · exact .bind (.read (lays_block lays _ _)) fun _ => .close (.refl _) rfl rfl
  · exact .bind (.read (lays _)) fun _ => .close (.refl _) rfl rfl

theorem lays_arrowHead (setting : Setting) (isAsync : Bool) :
    Lays source id (arrowHead grammar setting isAsync) :=
  .of_extends fun _ => .bind (.read (lays_parameters lays _)) fun _ =>
    .bind (.keep lays_expectArrow) fun _ => .pure rfl

theorem lays_arrow? (setting : Setting) :
    Lays source (fun found => found.toList) (arrow? grammar setting) := by
  refine .opening fun token => .ite ?_ (.ite ?_ (.pure rfl))
  · refine .bind (.keep (peeks_mayHoldParameters token).lays) fun _ => .ite (.pure rfl) ?_
    refine .bind (.attempt (.read (lays_arrowHead lays setting false))) fun found => ?_
    cases found with
    | some parameters => exact .bind (extends_arrowBody lays _ _ _ _) fun _ => .pure rfl
    | none => exact .pure rfl
  refine .bind (.keep Peeks.lift.lays) fun next => .ite (.pure rfl) (.ite ?_ ?_)
  · refine .bind (.keep (peeks_mayHoldParameters next).lays) fun _ => .ite (.pure rfl) ?_
    refine .bind (.attempt (.bind (.keep lays_advance) fun _ => .read (lays_arrowHead lays setting true)))
      fun found => ?_
    cases found with
    | some parameters => exact .bind (extends_arrowBody lays _ _ _ _) fun _ => .pure rfl
    | none => exact .pure rfl
  · refine .ite (.pure rfl) (.bind (.keep Peeks.lift.lays) fun _ => .ite ?_ (.pure rfl))
    refine .bind (.keep lays_advance) fun _ => .bind (.read (lays_binding _)) fun parameter => ?_
    refine .bind (.keep lays_expectArrow) fun _ => ?_
    exact .bind (extends_arrowBody lays _ _ _ _) fun _ => .pure rfl

theorem lays_decorator (setting : Setting) :
    Lays source (fun node => [node]) (decorator grammar setting) :=
  .opening fun _ => .bind (.keep (lays_expectSign "@")) fun _ => .bind (.read (lays _)) fun _ =>
    .close (.refl _) rfl rfl

theorem lays_decorators (setting : Setting) : Lays source id (decorators grammar setting) := by
  refine .of_extends fun _ => .bind (.read (lays_repeatUntil fun start found => ?_)) fun _ => .pure rfl
  refine .bind (.keep (peeks_atSign "@").lays) fun _ => .ite ?_ (.pure rfl)
  exact .bind (.read (lays_decorator lays setting)) fun _ => .pure (Array.toList_push ..)

/-- A field or a method, behind its decorators and modifiers. -/
theorem extends_keyedElement (setting : Setting) (modifiers : Modifiers) (start : Nat)
    (decorators : List Node) :
    Extends source start decorators (fun node => [node]) (do
      let key ← elementKey grammar setting.enclosed
      let isMethod ← atSign "("
      if !modifiers.allow isMethod key then fail "a class element of that name cannot stand here"
      if isMethod then
        let inside ← functionRest grammar modifiers.isAsync modifiers.isGenerator
        close .method start (decorators ++ key :: inside)
      else
        if modifiers.isAsync || modifiers.isGenerator || modifiers.isAccessor then
          fail "expected parameters"
        let inner := { setting.enclosed with yields := false, awaits := false }
        let value ← if ← eatSign "=" then pure [← grammar (.assignment inner)] else pure []
        endStatement
        close .field start (decorators ++ key :: value)) := by
  refine .bind (.read (lays_elementKey lays _)) fun key => ?_
  refine .bind (.keep (peeks_atSign "(").lays) fun _ => .guard (.ite ?_ (.guard ?_))
  · refine .bind (.read (lays_functionRest lays _ _)) fun inside => .close ?_ rfl rfl
    rw [List.append_assoc]
    exact .refl _
  have rest (value : List Node) : Extends source start (decorators ++ [key] ++ value)
      (fun node => [node]) (do
        endStatement
        close .field start (decorators ++ key :: value)) :=
    .bind (.keep lays_endStatement) fun _ => .close (by simp) rfl rfl
  exact .bind (.keep (lays_eatSign "=")) fun _ => .optional (lays _) rest

theorem lays_classElement (setting : Setting) :
    Lays source (fun node => [node]) (classElement grammar setting) := by
  refine .opening fun token => .bind (.keep (lays_eatSign ";")) fun _ => .ite .absent ?_
  refine .bind (.read (lays_decorators lays setting)) fun decorators => ?_
  refine .bind (.keep (peeks_atKeyword _).lays) fun _ => .bind (.keep peeks_upcoming.lays) fun _ => ?_
  refine .ite (.bind (.keep lays_advance) fun _ => ?_) (.bind (.keep lays_modifiers) fun modifiers => ?_)
  · refine .bind (.read (lays_block lays _ _)) fun body => .sublist (.close (.refl _) rfl rfl) ?_
    exact List.sublist_append_right _ _
  · exact extends_keyedElement lays setting modifiers token.start decorators

/-- A class stands behind its decorators, wherever they were read. -/
theorem extends_classDefinition (setting : Setting) (start : Nat) (decorators : List Node) :
    Extends source start decorators (fun node => [node])
      (classDefinition grammar setting start decorators) := by
  refine .bind (.keep (lays_expectKeyword "class")) fun _ => .bind (.keep peeks_current.lays) fun _ => ?_
  have elements (name : Node) (heritage : List Node) :
      Extends source start (decorators ++ [name] ++ heritage) (fun node => [node]) (do
        expectSign "\x7b"
        let elements ← repeatUntil (fun elements => do
          if ← eatSign "\x7d" then return (elements, true)
          else return (elements.push (← classElement grammar setting.enclosed), false)) #[]
        close .classDefinition start (name :: decorators ++ heritage ++ elements.toList)) := by
    refine .bind (.keep (lays_expectSign "\x7b")) fun _ => ?_
    refine .bind (.read (lays_repeatUntil fun start found => ?_)) fun elements => .close ?_ rfl rfl
    · refine .bind (.keep (lays_eatSign "\x7d")) fun _ => .ite (.pure rfl) ?_
      exact .bind (.read (lays_classElement lays _)) fun _ => .pure (Array.toList_push ..)
    · exact ((List.perm_append_singleton name decorators).append_right _).append_right _
  have heritage (name : Node) :
      Extends source start (decorators ++ [name]) (fun node => [node]) (do
        let heritage ←
          if ← eatKeyword "extends" then pure [← grammar (.operand setting true)] else pure []
        expectSign "\x7b"
        let elements ← repeatUntil (fun elements => do
          if ← eatSign "\x7d" then return (elements, true)
          else return (elements.push (← classElement grammar setting.enclosed), false)) #[]
        close .classDefinition start (name :: decorators ++ heritage ++ elements.toList)) := by
    exact .bind (.keep (lays_eatKeyword "extends")) fun _ => .optional (lays _) (elements name)
  exact .ite (.bind (.read (lays_binding _)) heritage) (.bind (.read (.of_extends fun _ => .absent)) heritage)

end ModuleBundler.Script
