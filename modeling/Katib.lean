import Katib.Go
import Katib.Strconv
import Katib.Api
import Katib.Suggestion.Parameters
import Katib.Suggestion.Bracket
import Katib.Suggestion.Eval
import Katib.Suggestion.Child
import Katib.Suggestion.HyperBand
import Katib.Suggestion.Run
import Katib.Suggestion.Sizes
import Katib.Suggestion.Created
import Katib.Suggestion.Isolation
import Katib.Suggestion.Progress
import Katib.Worker.Kubernetes
import Katib.Worker.Lifecycle
import Katib.Worker.Jobs
import Katib.Worker.Manifest
import Katib.Worker.Served
import Katib.Worker.Returns
