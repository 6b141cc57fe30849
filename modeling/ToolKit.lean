import ToolKit.Run
import ToolKit.Go
import ToolKit.Executor.Task
import ToolKit.Executor.Stats
import ToolKit.Executor.WaitGroup
import ToolKit.Executor.Timeout
import ToolKit.Executor.Batch
import ToolKit.Breaker.Execute
import ToolKit.Breaker.Concurrent
import ToolKit.Pool.Model
import ToolKit.Pool.Dispatch
import ToolKit.Pool.Stats
import ToolKit.Pool.Lifecycle
import ToolKit.Singleflight.CachedGroup
import ToolKit.RateLimit.Bucket
import ToolKit.Retry.Backoff
import ToolKit.Retry.Execute
import ToolKit.Http.Client
import ToolKit.Redis.Lua
import ToolKit.Redis.ScriptManager
import ToolKit.Pool.Order
import ToolKit.Redis.Statistics
import ToolKit.Executor.Monitoring
import ToolKit.Rabbitmq.Errors
import ToolKit.Rabbitmq.Guarded
import ToolKit.Rabbitmq.Producer
import ToolKit.Rabbitmq.Consumer
import ToolKit.Rabbitmq.Config
import ToolKit.Redis.Transaction
import ToolKit.Redis.Alerts
import ToolKit.Log.MultiWriter
