import TemplateEngine.Bundle.Basic
import TemplateEngine.Render.Machine
import TemplateEngine.Value.Comparison
import TemplateEngine.Value.Json
import TemplateEngine.Proofs.Render.Steps
import TemplateEngine.Proofs.Render.Tree
import TemplateEngine.Proofs.Template.Layout
import TemplateEngine.Proofs.Render.Flattened
import TemplateEngine.Proofs.Template.Compacted
import TemplateEngine.Proofs.Render.Compacted
import TemplateEngine.Proofs.Template.Grammar
import TemplateEngine.Proofs.Template.Parsed
import TemplateEngine.Proofs.Render.Compiled
import TemplateEngine.Proofs.Program.Scopes
import TemplateEngine.Proofs.Template.Scoped
import TemplateEngine.Proofs.Template.Fitted
import TemplateEngine.Proofs.Render.Scopes
import TemplateEngine.Proofs.Json.Written
import TemplateEngine.Proofs.Json.Decoded
import TemplateEngine.Proofs.Program.Artifact
import TemplateEngine.Proofs.Store.Restored
import TemplateEngine.Proofs.Program.Reread
import TemplateEngine.Proofs.Render.Requests
import TemplateEngine.Proofs.Store.Answered
import TemplateEngine.Proofs.Store.History
import TemplateEngine.Proofs.Render.Ending
import TemplateEngine.Proofs.Render.Errors
import TemplateEngine.Proofs.Render.Depth
import TemplateEngine.Proofs.Render.Restricted
import TemplateEngine.Proofs.Markup.Tokens
import TemplateEngine.Proofs.Render.Journal
import TemplateEngine.Proofs.Render.Once
import TemplateEngine.Proofs.Render.Failures
import TemplateEngine.Proofs.Markup.Texts
import TemplateEngine.Proofs.Template.Texts
import TemplateEngine.Proofs.Render.Squeezed
import TemplateEngine.Proofs.Template.Skips
import TemplateEngine.Proofs.Render.Deeds
import TemplateEngine.Proofs.Render.Mirrored
import TemplateEngine.Proofs.Render.Cosmetic
import TemplateEngine.Proofs.Block.Addressed
import TemplateEngine.Proofs.Block.Opened
import TemplateEngine.Proofs.Block.Numbered
import TemplateEngine.Proofs.Block.Copied
import TemplateEngine.Proofs.Markup.Normalized
import TemplateEngine.Proofs.Render.Fields
import TemplateEngine.Proofs.Markup.Steady
import TemplateEngine.Proofs.Markup.Truncated
import TemplateEngine.Proofs.Markup.Literals
import TemplateEngine.Proofs.Template.Literals
import TemplateEngine.Proofs.Program.Levels
import TemplateEngine.Proofs.Markup.Found
import TemplateEngine.Proofs.Markup.Targets
import TemplateEngine.Proofs.Template.Single
import TemplateEngine.Proofs.Template.Levels
import TemplateEngine.Proofs.Render.Targets
import TemplateEngine.Proofs.Store.Memory
import TemplateEngine.Proofs.Render.Alike
import TemplateEngine.Proofs.Store.Reconfigured
import TemplateEngine.Proofs.Store.Interleaved
import TemplateEngine.Proofs.Condition.Lexed
import TemplateEngine.Proofs.Condition.Derivation
import TemplateEngine.Proofs.Condition.Decided
import TemplateEngine.Proofs.Markup.Written
import TemplateEngine.Proofs.Markup.Cut
import TemplateEngine.Proofs.Template.Escaped
import TemplateEngine.Proofs.Markup.Ordered
import TemplateEngine.Proofs.Template.Directives
import TemplateEngine.Proofs.Template.Sections
import TemplateEngine.Proofs.Value.Assigned
import TemplateEngine.Proofs.Markup.Origins
import TemplateEngine.Proofs.Template.Warnings
import TemplateEngine.Proofs.Markup.Features
import TemplateEngine.Proofs.Markup.Followed
import TemplateEngine.Proofs.Markup.Switched
import TemplateEngine.Proofs.Markup.Unaffected
import TemplateEngine.Proofs.Template.Switches
import TemplateEngine.Proofs.Block.Resolved
import TemplateEngine.Proofs.Block.Retained
import TemplateEngine.Proofs.Condition.Compared
import TemplateEngine.Proofs.Value.Protected
import TemplateEngine.Proofs.Render.Protected
import TemplateEngine.Proofs.Value.Compared
import TemplateEngine.Proofs.Condition.Exclusive
import TemplateEngine.Proofs.Condition.Reflexive
import TemplateEngine.Proofs.Filter.Cut
import TemplateEngine.Proofs.Filter.Slug
import TemplateEngine.Proofs.Filter.Entities
import TemplateEngine.Proofs.Render.Queries
import TemplateEngine.Proofs.Bundle.FunctionNames
import TemplateEngine.Proofs.Store.Files
