import ScalyrAgent.Triple
import ScalyrAgent.PyDict
import ScalyrAgent.Postgres.Timestamp
import ScalyrAgent.Postgres.Driver
import ScalyrAgent.Postgres.Db
import ScalyrAgent.Postgres.Quoting
import ScalyrAgent.Postgres.Monitor
import ScalyrAgent.Postgres.Invariant
import ScalyrAgent.Postgres.Lifecycle
import ScalyrAgent.Postgres.Samples
import ScalyrAgent.Postgres.Cycle
import ScalyrAgent.Postgres.Stale
import ScalyrAgent.Postgres.Losses
import ScalyrAgent.Postgres.Leaks
import ScalyrAgent.Postgres.Accounting
import ScalyrAgent.Postgres.Declared
import ScalyrAgent.ProcessMetrics.Psutil
import ScalyrAgent.ProcessMetrics.Metrics
import ScalyrAgent.ProcessMetrics.Matcher
import ScalyrAgent.ProcessMetrics.Monitor
import ScalyrAgent.ProcessMetrics.Host
import ScalyrAgent.ProcessMetrics.Threads
import ScalyrAgent.ProcessMetrics.Serial
