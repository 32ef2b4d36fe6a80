import ModuleBundler.Proofs.Script.Phrase
import ModuleBundler.Proofs.Script.Target
import ModuleBundler.Script.Grammar.Expression

/-!
Expressions are laid out in the text if the phrases inside of them are.
-/

namespace ModuleBundler.Script

variable {source : List Char}

theorem lays_leaf {shape : Shape} (bare : shape.isBare = true → shape = .absent)
    (plain : shape.declares? = none) : Lays source (fun node => [node]) (leaf shape) :=
  .looking fun _ frame => laysAt_token frame (fun kind => .inl (bare kind)) plain

theorem lays_memberName : Lays source (fun node => [node]) memberName := by
  refine .looking fun cursor frame => ?_
  have reads := frame.token.reads
  split
  · rename_i name escaped lexeme
    rw [lexeme] at reads
    exact laysAt_token frame (fun _ => .inr reads.1) rfl
  · exact laysAt_token frame nofun rfl
  · exact .fail

theorem prefix_of_isSign {token : Token} {sign : String} (sound : token.Sound source)
    (isSign : token.isSign sign = true) : sign.toList <+: token.text := by
  have reads := sound.reads
  unfold Token.isSign at isSign
  split at isSign
  · rename_i text lexeme
    rw [lexeme] at reads
    exact eq_of_beq isSign ▸ reads
  · cases isSign

theorem peeks_atShorthand : Peeks atShorthand :=
  peeks_current.bind fun _ => .ite .pure (peeks_upcoming.bind fun _ => .pure)

theorem lays_templateStretch (tagged : Bool) : Lays source (fun _ => []) (templateStretch tagged) := by
  refine .opening fun token => ?_
  split
  · exact .guard (.bind (.keep lays_advance) fun _ => .pure rfl)
  · exact .fail

/-- Behind an expression in a template the next stretch of it is read, if it comes. -/
theorem extends_nextStretch {α : Type} {start : Nat} {earlier : List Node} {nodes : α × Bool → List Node}
    (tagged : Bool) {answer : α} (same : ∀ closes, nodes (answer, closes) = earlier) :
    Extends source start earlier nodes (do
      if ← atSign "\x7d" then
        reread (← current).asTemplate
        return (answer, ← templateStretch tagged)
      else return (answer, false)) := by
  have stretch : Extends source start earlier nodes (do return (answer, ← templateStretch tagged)) :=
    .bind (.keep (lays_templateStretch tagged)) fun closes => .pure (same closes)
  intro cursor frame found after ended
  obtain ⟨closes, _, looked, rest⟩ := reading_bind_eq_ok.1 ended
  cases looked
  split at rest
  · rename_i brace
    obtain ⟨_, _, got, rest⟩ := reading_bind_eq_ok.1 rest
    cases got
    obtain ⟨_, middle, again, rest⟩ := reading_bind_eq_ok.1 rest
    obtain ⟨laid, onward⟩ := laysAt_reread frame.fresh
      (fun read => frame.token.asTemplate (prefix_of_isSign frame.token brace) read) again
    have between := frame.behind laid onward
    rw [List.append_nil] at between
    obtain ⟨final, further⟩ := stretch between rest
    exact ⟨final, onward.trans further⟩
  · cases rest
    exact ⟨same false ▸ frame, .refl _⟩

theorem extends_closeMany {start : Nat} {nodes : List Node} {shape : Shape}
    (composed : shape.isBare = false) (plain : shape.declares? = none) :
    Extends source start nodes (fun node => [node])
      (match nodes with
      | [node] => return node
      | nodes => close shape start nodes) := by
  split
  · exact .pure rfl
  · exact .close (.refl _) composed plain

variable {grammar : Grammar} (lays : LaysPhrases source grammar)
include lays

theorem lays_spreadable (setting : Setting) :
    Lays source (fun node => [node]) (spreadable grammar setting) := by
  refine .opening fun token => .bind (.keep (lays_eatSign "...")) fun _ => .ite ?_ (.read (lays _))
  exact .bind (.read (lays _)) fun _ => .close (.refl _) rfl rfl

theorem lays_arguments (setting : Setting) : Lays source id (arguments grammar setting) :=
  .of_extends fun _ => .bind (.keep (lays_expectSign "(")) fun _ =>
    .bind (.read (lays_commaSeparated (lays_spreadable lays setting))) fun _ => .pure rfl

theorem lays_arrayDisplay (setting : Setting) :
    Lays source (fun node => [node]) (arrayDisplay grammar setting) := by
  have each : Lays source (fun node => [node]) (do
      if ← atSign "," then return .absent else spreadable grammar setting) :=
    .of_extends fun _ => .bind (.keep (peeks_atSign ",").lays) fun _ =>
      .ite .absent (.read (lays_spreadable lays setting))
  refine .opening fun token => .bind (.keep (lays_expectSign "[")) fun _ => ?_
  exact .bind (.read (lays_commaSeparated each)) fun _ => .close (.refl _) rfl rfl

theorem lays_objectProperty (setting : Setting) :
    Lays source (fun node => [node]) (objectProperty grammar setting) := by
  refine .opening fun token => ?_
  have method (isAsync isGenerator : Bool) : Extends source token.start [] (fun node => [node]) (do
      methodRest grammar isAsync isGenerator token.start (← propertyKey grammar setting)) :=
    .bind (.read (lays_propertyKey lays setting)) fun key => extends_methodRest lays _ _ _ key
  refine .bind (.keep (peeks_atSign "...").lays) fun _ => .ite (.read (lays_spreadable lays setting)) ?_
  refine .bind (.keep (lays_eatModifier _ _ _)) fun _ => .ite (method _ _) ?_
  refine .bind (.keep (lays_eatModifier _ _ _)) fun _ => .ite (method _ _) ?_
  refine .bind (.keep (lays_eatModifier _ _ _)) fun _ => .ite ?_ ?_
  · exact .bind (.keep (lays_eatSign "*")) fun isGenerator => method _ _
  refine .bind (.keep (lays_eatSign "*")) fun _ => .ite (method _ _) ?_
  refine .bind (.keep peeks_atShorthand.lays) fun _ => .ite ?_ ?_
  · refine .bind (.read (lays_identifier setting)) fun name => ?_
    refine .bind (.keep (lays_eatSign "=")) fun _ => .ite ?_ (.close (.refl _) rfl rfl)
    exact .bind (.read (lays _)) fun _ => .close (.refl _) rfl rfl
  refine .bind (.read (lays_propertyKey lays setting)) fun key => ?_
  refine .bind (.keep (peeks_atSign "(").lays) fun _ => .ite (extends_methodRest lays _ _ _ key) ?_
  refine .bind (.keep (lays_expectSign ":")) fun _ => ?_
  exact .bind (.read (lays _)) fun _ => .close (.refl _) rfl rfl

theorem lays_objectDisplay (setting : Setting) :
    Lays source (fun node => [node]) (objectDisplay grammar setting) :=
  .opening fun _ => .bind (.keep (lays_expectSign "\x7b")) fun _ =>
    .bind (.read (lays_commaSeparated (lays_objectProperty lays setting))) fun _ => .close (.refl _) rfl rfl

theorem lays_templateExpressions (setting : Setting) (tagged : Bool) :
    Lays source id (templateExpressions grammar setting tagged) := by
  refine .of_extends fun _ => .bind (.keep (lays_templateStretch tagged)) fun _ => .ite (.pure rfl) ?_
  refine .bind (.read (lays_repeatUntil fun start found => ?_)) fun _ => .pure rfl
  exact .bind (.read (lays _)) fun node => extends_nextStretch tagged fun _ => Array.toList_push ..

theorem lays_importExpression (setting : Setting) (calls : Bool) :
    Lays source (fun node => [node]) (importExpression grammar setting calls) := by
  refine .opening fun token => .bind (.keep (lays_expectKeyword "import")) fun _ => ?_
  refine .bind (.keep (lays_eatSign ".")) fun phase => .bind (.keep (peeks_atKeyword "meta").lays) fun _ => ?_
  refine .ite (.bind (.keep lays_advance) fun _ => .close (.refl _) rfl rfl) ?_
  have call : Extends source token.start [] (fun node => [node]) (do
      if !calls then fail "an import call cannot be constructed"
      expectSign "("
      let source ← grammar (.assignment setting.enclosed)
      let options ←
        if (← eatSign ",") && !(← atSign ")") then
          let options ← grammar (.assignment setting.enclosed)
          let _ ← eatSign ","
          pure [options]
        else pure []
      expectSign ")"
      close .importCall token.start (source :: options)) := by
    refine .guard (.bind (.keep (lays_expectSign "(")) fun _ => .bind (.read (lays _)) fun node => ?_)
    refine .bind (.keep (lays_eatSign ",")) fun _ => .bind (.keep (peeks_atSign ")").lays) fun _ => ?_
    refine .ite (.bind (.read (lays _)) fun options => ?_) (.given ?_)
    · refine .bind (.keep (lays_eatSign ",")) fun _ => .given ?_
      exact .bind (.keep (lays_expectSign ")")) fun _ => .close (.refl _) rfl rfl
    · exact .bind (.keep (lays_expectSign ")")) fun _ => .close (.refl _) rfl rfl
  refine .ite (.bind (.keep (lays_eatKeyword "source")) fun _ => .ite ?_ call) call
  exact .bind (.keep (lays_expectKeyword "defer")) fun _ => call

theorem lays_construction (setting : Setting) :
    Lays source (fun node => [node]) (construction grammar setting) := by
  refine .opening fun token => .bind (.keep (lays_expectKeyword "new")) fun _ => ?_
  refine .bind (.keep (lays_eatSign ".")) fun _ => .ite ?_ (.bind (.read (lays _)) fun callee => ?_)
  · exact .bind (.keep (lays_expectKeyword "target")) fun _ => .close (.refl _) rfl rfl
  refine .bind (.keep (peeks_atSign "(").lays) fun _ => .ite ?_ (.given (.close (.refl _) rfl rfl))
  exact .bind (.read (lays_arguments lays setting)) fun _ => .close (.refl _) rfl rfl

theorem lays_parenthesized (setting : Setting) :
    Lays source (fun node => [node]) (parenthesized grammar setting) :=
  .opening fun _ => .bind (.keep (lays_expectSign "(")) fun _ => .bind (.read (lays _)) fun _ =>
    .bind (.keep (lays_expectSign ")")) fun _ => .close (.refl _) rfl rfl

theorem lays_wordExpression (setting : Setting) (calls : Bool) (word : String) :
    Lays source (fun node => [node]) (wordExpression grammar setting calls word) := by
  unfold wordExpression
  split
  · exact lays_leaf nofun rfl
  · exact lays_leaf nofun rfl
  · exact lays_leaf nofun rfl
  · exact lays_leaf nofun rfl
  · exact lays_function lays none false
  · exact .opening fun token => extends_classDefinition lays setting token.start []
  · exact lays_construction lays setting
  · exact lays_importExpression lays setting calls
  · refine .of_extends fun start => .bind (.read (lays_leaf nofun rfl)) fun node => ?_
    refine .bind (.keep (peeks_atSign ".").lays) fun _ => .bind (.keep (peeks_atSign "[").lays) fun _ => ?_
    exact .bind (.keep (peeks_atSign "(").lays) fun _ => .ite (.pure rfl) .fail
  · exact .of_extends fun _ => .bind (.keep peeks_atAsyncFunction.lays) fun _ =>
      .ite (.read (lays_function lays none false)) (.read (lays_identifier setting))

theorem lays_primary (setting : Setting) (calls : Bool) :
    Lays source (fun node => [node]) (primary grammar setting calls) := by
  refine .looking fun cursor frame => ?_
  have regex (starts : ['/'] <+: cursor.token.text) : LaysAt source (fun node => [node]) (do
      reread cursor.token.asRegex
      leaf .literal) cursor :=
    (laysAt_reread frame fun read => frame.token.asRegex starts read).bind fun _ =>
      .read (lays_leaf nofun rfl)
  have reads := frame.token.reads
  split
  · exact lays_wordExpression lays setting calls _ cursor frame
  · exact lays_identifier setting cursor frame
  · exact lays_textLiteral cursor frame
  · exact laysAt_token frame nofun rfl
  · exact laysAt_token frame nofun rfl
  · exact Extends.laysAt (.bind (.read (lays_templateExpressions lays setting false)) fun _ =>
      .close (.refl _) rfl rfl) frame
  · rename_i sign lexeme
    rw [lexeme] at reads
    split
    · exact lays_parenthesized lays setting cursor frame
    · exact lays_arrayDisplay lays setting cursor frame
    · exact lays_objectDisplay lays setting cursor frame
    · exact regex reads
    · exact regex (List.IsPrefix.trans ⟨['='], rfl⟩ reads)
    · refine Extends.laysAt (.bind (.read (lays_decorators lays setting)) fun decorators => ?_) frame
      exact extends_classDefinition lays setting _ decorators
    · exact .fail
  · exact .fail

/-- A link goes on from the operand that it hangs on. -/
theorem extends_link (setting : Setting) (calls : Bool) (start : Nat) (linked : Linked) :
    Extends source start [linked.node] (fun answer => [answer.1.node])
      (link grammar setting calls start linked) := by
  have call (optional : Bool) : Extends source start [linked.node] (fun answer => [answer.1.node]) (do
      let arguments ← arguments grammar setting
      return ((⟨← close .call start (linked.node :: arguments), optional⟩ : Linked), false)) :=
    .bind (.read (lays_arguments lays setting)) fun _ => .bind (.close (.refl _) rfl rfl) fun _ => .pure rfl
  have named (optional : Bool) : Extends source start [linked.node] (fun answer => [answer.1.node]) (do
      let name ← memberName
      return ((⟨← close .member start [linked.node, name], optional⟩ : Linked), false)) :=
    .bind (.read lays_memberName) fun _ => .bind (.close (.refl _) rfl rfl) fun _ => .pure rfl
  have indexed (optional : Bool) : Extends source start [linked.node] (fun answer => [answer.1.node]) (do
      expectSign "["
      let index ← grammar (.expression setting.enclosed)
      expectSign "]"
      return ((⟨← close .member start [linked.node, index], optional⟩ : Linked), false)) :=
    .bind (.keep (lays_expectSign "[")) fun _ => .bind (.read (lays _)) fun _ =>
      .bind (.keep (lays_expectSign "]")) fun _ => .bind (.close (.refl _) rfl rfl) fun _ => .pure rfl
  refine .bind (.keep peeks_current.lays) fun token => ?_
  split
  · exact .bind (.keep lays_advance) fun _ => named _
  · refine .guard (.bind (.keep lays_advance) fun _ => .bind (.keep (peeks_atSign "(").lays) fun _ => ?_)
    refine .ite (call true) (.bind (.keep (peeks_atSign "[").lays) fun _ => ?_)
    exact .ite (indexed true) (named true)
  · exact .ite (.pure rfl) (indexed _)
  · exact .ite (call _) (.pure rfl)
  · refine .guard (.bind (.read (lays_templateExpressions lays setting true)) fun _ => ?_)
    exact .bind (.close (.refl _) rfl rfl) fun _ => .pure rfl
  · exact .pure rfl

theorem lays_operand (setting : Setting) (calls : Bool) :
    Lays source (fun node => [node]) (operand grammar setting calls) := by
  refine .opening fun token => .bind (.read (lays_primary lays setting calls)) fun first => ?_
  refine .bind (.repeatUntil (fun linked => [linked.node]) (extends_link lays setting calls token.start)
    (Linked.mk first false)) fun linked => ?_
  exact .ite (.close (.refl _) rfl rfl) (.pure rfl)

theorem lays_unary (setting : Setting) : Lays source (fun node => [node]) (unary grammar setting) := by
  refine .opening fun token => .ite ?_ (.ite ?_ (.ite ?_ (.bind (.read (lays _)) fun node => ?_)))
  · exact .bind (.keep lays_advance) fun _ => .bind (.read (lays _)) fun _ => .close (.refl _) rfl rfl
  · refine .bind (.keep lays_advance) fun _ => .bind (.read (lays _)) fun _ => ?_
    exact .guard (.close (.refl _) rfl rfl)
  · exact .bind (.keep lays_advance) fun _ => .bind (.read (lays _)) fun _ => .close (.refl _) rfl rfl
  · refine .bind (.keep peeks_current.lays) fun behind => .ite (.guard ?_) (.pure rfl)
    exact .bind (.keep lays_advance) fun _ => .close (.refl _) rfl rfl

theorem lays_term (setting : Setting) : Lays source (fun node => [node]) (term grammar setting) := by
  refine .opening fun token => ?_
  split
  · refine .bind (.read (lays_leaf nofun rfl)) fun node => ?_
    exact .bind (.keep (peeks_atKeyword "in").lays) fun _ => .ite (.pure rfl) .fail
  · exact .read (lays _)

theorem lays_operation (setting : Setting) :
    Lays source (fun node => [node]) (operation grammar setting) := by
  refine .opening fun token => ?_
  refine .bind (.read (lays_repeatUntil fun start terms => ?_)) fun terms => extends_closeMany rfl rfl
  refine .bind (.read (lays_term lays setting)) fun node => .bind (.keep peeks_current.lays) fun _ => ?_
  refine .ite (.bind (.keep lays_advance) fun _ => .pure ?_) (.pure ?_)
  · exact Array.toList_push ..
  · exact Array.toList_push ..

theorem lays_yielding (setting : Setting) :
    Lays source (fun node => [node]) (yielding grammar setting) := by
  refine .opening fun token => .bind (.keep lays_advance) fun _ => ?_
  refine .bind (.keep peeks_current.lays) fun _ => .ite (.close (.refl _) rfl rfl) ?_
  refine .bind (.keep (lays_eatSign "*")) fun _ => .bind (.keep peeks_current.lays) fun _ => ?_
  exact .ite (.close (.refl _) rfl rfl) (.bind (.read (lays _)) fun _ => .close (.refl _) rfl rfl)

theorem extends_assignmentRest (setting : Setting) (start : Nat) (first : Node) :
    Extends source start [first] (fun node => [node])
      (assignmentRest grammar setting start first) := by
  refine .bind (.keep peeks_current.lays) fun token => ?_
  split
  · rename_i name named _
    refine .replace ?_ fun laid => laid.bound named
    exact .bind (.keep lays_expectArrow) fun _ => extends_arrowBody lays setting false start _
  · split
    · exact .fail
    · rename_i target read
      refine .replace ?_ fun laid => laid.target target read
      exact .bind (.keep lays_advance) fun _ => .bind (.read (lays _)) fun _ => .close (.refl _) rfl rfl
  · refine .bind (.keep lays_advance) fun _ => .bind (.read (lays _)) fun _ => ?_
    refine .bind (.keep (lays_expectSign ":")) fun _ => .bind (.read (lays _)) fun _ => ?_
    exact .close (.refl _) rfl rfl
  · refine .ite (.guard (.bind (.keep lays_advance) fun _ => ?_)) (.pure rfl)
    exact .bind (.read (lays _)) fun _ => .close (.refl _) rfl rfl

theorem lays_assignment (setting : Setting) :
    Lays source (fun node => [node]) (assignment grammar setting) := by
  refine .opening fun token => .ite (.read (lays_yielding lays setting)) ?_
  refine .bind (.read (lays_arrow? lays setting)) fun found => ?_
  cases found with
  | some node => exact .pure rfl
  | none =>
    exact .bind (.read (lays_operation lays setting)) fun first =>
      extends_assignmentRest lays setting token.start first

theorem lays_expression (setting : Setting) :
    Lays source (fun node => [node]) (expression grammar setting) := by
  refine .opening fun token => ?_
  refine .bind (.read (lays_repeatUntil fun start parts => ?_)) fun parts => extends_closeMany rfl rfl
  refine .bind (.read (lays _)) fun node => .bind (.keep (lays_eatSign ",")) fun _ => .pure ?_
  exact Array.toList_push ..

end ModuleBundler.Script
