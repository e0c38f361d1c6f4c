import ComponentTree.Renderer.Describe
import ComponentTree.LoadError
import ComponentTree.Hooks.Rule
import ComponentTree.Spreader
import ComponentTree.Markup
import ComponentTree.Instance.Written
import ComponentTree.Proofs.Render.Accounting
import ComponentTree.Proofs.Markup.Reading
import ComponentTree.Proofs.Markup.Injection
import ComponentTree.Proofs.Render.Comparison
import ComponentTree.Proofs.Render.Truncation
import ComponentTree.Proofs.Policy.Monotone
import ComponentTree.Proofs.Render.Termination
import ComponentTree.Proofs.Render.Precedence
import ComponentTree.Proofs.Registry.EmptyName
import ComponentTree.Proofs.Render.Spreading
import ComponentTree.Proofs.Decimal.Rounding
import ComponentTree.Proofs.Decimal.Text
import ComponentTree.Proofs.Registry.Construction
import ComponentTree.Proofs.Json.Text
import ComponentTree.Proofs.Node.DerivedKey
import ComponentTree.Proofs.Render.Keys
import ComponentTree.Proofs.Node.Gap
import ComponentTree.Proofs.Render.Containment
import ComponentTree.Proofs.Markup.Pruning
import ComponentTree.Proofs.Markup.Warnings
import ComponentTree.Proofs.Render.Census
import ComponentTree.Proofs.Render.Tour
import ComponentTree.Proofs.Render.Silence
import ComponentTree.Proofs.Render.Legacy
import ComponentTree.Proofs.Options.Resolution
import ComponentTree.Proofs.Options.Reading
import ComponentTree.Proofs.Policy.Advice
import ComponentTree.Proofs.Node.Bracketing
import ComponentTree.Proofs.Tree.Roundtrip
