import Wegent.Python
import Wegent.SkillFactory.Config
import Wegent.SkillFactory.Provider
import Wegent.SkillFactory.Mcp
import Wegent.SkillFactory.Prepare
import Wegent.SkillFactory.Run
import Wegent.SkillFactory.Aggregate
import Wegent.SkillFactory.Batch
import Wegent.Prometheus.Regex
import Wegent.Prometheus.Route
import Wegent.Prometheus.Server
import Wegent.Prometheus.FastApi
import Wegent.Prometheus.Middleware
import Wegent.Metrics.Track
import Wegent.Metrics.Llm
import Wegent.Prometheus.Registry
import Wegent.Prometheus.Served
